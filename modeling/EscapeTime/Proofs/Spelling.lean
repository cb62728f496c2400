import EscapeTime.Graymap.Grammar
import Mathlib.Tactic.Common

/-!
# How numbers are spelled

The words that stand for a number: at most one sign and then decimal digits, leading zeros allowed.
Reading accepts exactly these, and the numerals that are written are among them.
-/

namespace EscapeTime.Proofs
open Graymap

def charOf (b : UInt8) : Char := Char.ofNat b.toNat

lemma toNat_charOf (b : UInt8) : (charOf b).toNat = b.toNat := by
  have hlt := b.toNat_lt
  have hvalid : b.toNat.isValidChar := Or.inl (by omega)
  unfold charOf Char.ofNat
  rw [dif_pos hvalid]
  rfl

lemma charOf_injective {a b : UInt8} (h : charOf a = charOf b) : a = b := by
  have htoNat := congrArg Char.toNat h
  rw [toNat_charOf, toNat_charOf] at htoNat
  exact UInt8.toNat_inj.mp htoNat

lemma isDigit_charOf {b : UInt8} : (charOf b).isDigit = true ↔ 0x30 ≤ b ∧ b ≤ 0x39 := by
  rw [Char.isDigit_iff_toNat, toNat_charOf, UInt8.le_iff_toNat_le, UInt8.le_iff_toNat_le]
  rfl

lemma charOf_toUInt8 {c : Char} (h : c.toNat < 256) : charOf c.toUInt8 = c := by
  have hbyte : c.toUInt8.toNat = c.toNat := by
    rw [← Nat.mod_eq_of_lt h]
    exact UInt32.toNat_toUInt8 c.val
  unfold charOf
  rw [hbyte, Char.ofNat_toNat]

lemma magnitude?_eq_some_iff {digits : List UInt8} {n : Nat} :
    Numeral.magnitude? (digits.map charOf) = some n ↔ IsDigits digits ∧ n = decimal digits := by
  have hvalue : Nat.ofDigitChars 10 (digits.map charOf) 0 = decimal digits := by
    rw [Nat.ofDigitChars_eq_foldl, List.foldl_map]
    simp only [toNat_charOf]
    rfl
  have hdigits : (digits.map charOf ≠ [] ∧ (digits.map charOf).all Char.isDigit = true) ↔
      IsDigits digits := by
    simp only [IsDigits, ne_eq, List.map_eq_nil_iff, List.all_map, List.all_eq_true,
      Function.comp_apply, isDigit_charOf]
  unfold Numeral.magnitude?
  by_cases h : IsDigits digits
  · rw [if_pos (hdigits.mpr h), hvalue, Option.some_inj]
    exact ⟨fun heq => ⟨h, heq.symm⟩, fun hn => hn.2.symm⟩
  · rw [if_neg fun hd => h (hdigits.mp hd)]
    constructor
    · intro heq
      cases heq
    · intro hn
      exact absurd hn.1 h

lemma ne_cons_of_isDigits {sign : UInt8} {digits word : List UInt8} (hword : IsDigits word)
    (hsign : sign = 0x2b ∨ sign = 0x2d) : word ≠ sign :: digits := by
  rintro rfl
  have hdigit := hword.2 sign List.mem_cons_self
  rcases hsign with rfl | rfl
  · exact absurd hdigit.1 (by decide)
  · exact absurd hdigit.1 (by decide)

lemma eq_cons_of_map_charOf {word : List UInt8} {b : UInt8} {cs : List Char}
    (h : word.map charOf = charOf b :: cs) : ∃ digits, word = b :: digits ∧ cs = digits.map charOf := by
  obtain ⟨first, digits, rfl, hfirst, rfl⟩ := List.map_eq_cons_iff.mp h
  rw [charOf_injective hfirst]
  exact ⟨digits, rfl, rfl⟩

lemma integer?_eq_some_iff {word : List UInt8} {n : Int} :
    Numeral.integer? (word.map charOf) = some n ↔ Spells word n := by
  constructor
  · intro h
    unfold Numeral.integer? at h
    split at h
    · rename_i cs hword
      obtain ⟨digits, rfl, rfl⟩ := eq_cons_of_map_charOf (b := 0x2d) hword
      obtain ⟨value, hvalue, rfl⟩ := Option.map_eq_some_iff.mp h
      obtain ⟨hdigits, rfl⟩ := magnitude?_eq_some_iff.mp hvalue
      exact Spells.minus hdigits
    · rename_i cs hword
      obtain ⟨digits, rfl, rfl⟩ := eq_cons_of_map_charOf (b := 0x2b) hword
      obtain ⟨value, hvalue, rfl⟩ := Option.map_eq_some_iff.mp h
      obtain ⟨hdigits, rfl⟩ := magnitude?_eq_some_iff.mp hvalue
      exact Spells.plus hdigits
    · obtain ⟨value, hvalue, rfl⟩ := Option.map_eq_some_iff.mp h
      obtain ⟨hdigits, rfl⟩ := magnitude?_eq_some_iff.mp hvalue
      exact Spells.plain hdigits
  · rintro (h | h | h)
    · have hvalue := magnitude?_eq_some_iff.mpr ⟨h, rfl⟩
      unfold Numeral.integer?
      -- Digits do not start with a sign, so the last pattern is the one that matches.
      split
      · rename_i cs hword
        obtain ⟨digits, hcons, -⟩ := eq_cons_of_map_charOf (b := 0x2d) hword
        exact absurd hcons (ne_cons_of_isDigits h (Or.inr rfl))
      · rename_i cs hword
        obtain ⟨digits, hcons, -⟩ := eq_cons_of_map_charOf (b := 0x2b) hword
        exact absurd hcons (ne_cons_of_isDigits h (Or.inl rfl))
      · rw [hvalue]
        rfl
    · have hvalue := magnitude?_eq_some_iff.mpr ⟨h, rfl⟩
      exact congrArg (Option.map _) hvalue
    · have hvalue := magnitude?_eq_some_iff.mpr ⟨h, rfl⟩
      exact congrArg (Option.map _) hvalue

lemma spells_unique {word : List UInt8} {m n : Int} (hm : Spells word m) (hn : Spells word n) : m = n := by
  rw [← integer?_eq_some_iff] at hm hn
  exact Option.some.inj (hm.symm.trans hn)

lemma machineInt?_eq_some_iff {n : Int} {x : Int64} : machineInt? n = some x ↔ x.toInt = n := by
  have hlt := Int64.toInt_lt x
  have hle := Int64.le_toInt x
  unfold machineInt?
  split
  · rename_i h
    unfold minInt maxInt at h
    have hvalue : (Int64.ofInt n).toInt = n := Int64.toInt_ofInt_of_le (by omega) (by omega)
    rw [Option.some_inj, ← Int64.toInt_inj, hvalue]
    exact eq_comm
  · rename_i h
    unfold minInt maxInt at h
    constructor
    · intro heq
      cases heq
    · intro heq
      omega

/-- A word is read as a number exactly when it spells that number. -/
theorem wordValue?_eq_some_iff {word : List UInt8} {n : Int64} :
    wordValue? word = some n ↔ Spells word n.toInt := by
  change (Numeral.integer? (word.map charOf)).bind machineInt? = some n ↔ _
  simp only [Option.bind_eq_some_iff, integer?_eq_some_iff, machineInt?_eq_some_iff]
  constructor
  · rintro ⟨value, hword, rfl⟩
    exact hword
  · intro hword
    exact ⟨n.toInt, hword, rfl⟩

/-- The number as a word of digits without leading zeros. -/
def numeralWord (n : Nat) : List UInt8 := (Numeral.ofNat n).map Char.toUInt8

lemma magnitude?_numeralWord (n : Nat) : Numeral.magnitude? ((numeralWord n).map charOf) = some n := by
  have hdigit : ∀ c ∈ Numeral.ofNat n, c.isDigit = true := by
    intro c hc
    exact Nat.isDigit_of_mem_toDigits (by decide) (by decide) hc
  have hback : (numeralWord n).map charOf = Numeral.ofNat n := by
    unfold numeralWord
    rw [List.map_map]
    conv_rhs => rw [← List.map_id (Numeral.ofNat n)]
    apply List.map_congr_left
    intro c hc
    have hle := (Char.isDigit_iff_toNat.mp (hdigit c hc)).2
    exact charOf_toUInt8 (Nat.lt_of_le_of_lt hle (by decide))
  rw [hback]
  unfold Numeral.magnitude?
  rw [if_pos ⟨Nat.toDigits_ne_nil, List.all_eq_true.mpr hdigit⟩]
  exact congrArg some Nat.ofDigitChars_ten_toDigits

lemma isDigits_numeralWord (n : Nat) : IsDigits (numeralWord n) :=
  (magnitude?_eq_some_iff.mp (magnitude?_numeralWord n)).1

theorem spells_numeralWord (n : Nat) : Spells (numeralWord n) n := by
  obtain ⟨hdigits, hvalue⟩ := magnitude?_eq_some_iff.mp (magnitude?_numeralWord n)
  have hspells := Spells.plain hdigits
  rw [← hvalue] at hspells
  exact hspells

lemma isWord_of_isDigits {word : List UInt8} (h : IsDigits word) : IsWord word := by
  obtain ⟨hne, hdigit⟩ := h
  refine ⟨hne, ?_, ?_⟩
  · intro b hb
    have hle := (hdigit b hb).1
    rw [← Bool.not_eq_true]
    intro hblank
    simp only [isBlank, Bool.or_eq_true, decide_eq_true_eq, or_assoc] at hblank
    rcases hblank with rfl | rfl | rfl | rfl | rfl | rfl
    all_goals exact absurd hle (by decide)
  · intro hhead
    have hle := hdigit commentMark (List.mem_of_mem_head? hhead)
    exact absurd hle.1 (by decide)

end EscapeTime.Proofs
