import EscapeTime.Graymap.Reader

/-!
# The grammar of graymaps

What a readable file looks like, said without the reader: four fields, each a word after a gap of
blanks and comments and before a single blank, then the pixels and whatever follows them.
-/

namespace EscapeTime

namespace Graymap

/-- The number that decimal digits stand for. -/
def decimal (digits : List UInt8) : Nat :=
  digits.foldl (fun value d => 10 * value + (d.toNat - 48)) 0

def IsDigits (digits : List UInt8) : Prop := digits ≠ [] ∧ ∀ d ∈ digits, 0x30 ≤ d ∧ d ≤ 0x39

/-- The word stands for the number: digits, or digits after one sign. -/
inductive Spells : List UInt8 → Int → Prop where
  | plain {digits : List UInt8} : IsDigits digits → Spells digits (decimal digits)
  | plus {digits : List UInt8} : IsDigits digits → Spells (0x2b :: digits) (decimal digits)
  | minus {digits : List UInt8} : IsDigits digits → Spells (0x2d :: digits) (-decimal digits)

/-- Blanks and comments in any order. A comment runs to the end of its line. -/
inductive Gap : List UInt8 → Prop where
  | nil : Gap []
  | blank {b : UInt8} {bs : List UInt8} : isBlank b = true → Gap bs → Gap (b :: bs)
  | comment {text bs : List UInt8} : lineEnd ∉ text → Gap bs →
      Gap (commentMark :: text ++ lineEnd :: bs)

/-- A word that can stand as a field: not empty, without blanks, and no start of a comment. -/
structure IsWord (word : List UInt8) : Prop where
  ne_nil : word ≠ []
  no_blank : ∀ b ∈ word, isBlank b = false
  no_comment : word.head? ≠ some commentMark

/-- A word with the gap before it and the blank that ends it. -/
@[ext]
structure Lexeme where
  gap : List UInt8
  word : List UInt8
  blank : UInt8
  isGap : Gap gap
  isWord : IsWord word
  isBlank_blank : isBlank blank = true

def Lexeme.bytes (l : Lexeme) : List UInt8 := l.gap ++ (l.word ++ [l.blank])

@[ext]
structure Fields where
  magic : Lexeme
  width : Lexeme
  height : Lexeme
  value : Lexeme

def Fields.bytes (f : Fields) : List UInt8 :=
  f.magic.bytes ++ (f.width.bytes ++ (f.height.bytes ++ f.value.bytes))

/-- The fields are those of a header for these dimensions. -/
structure Fields.Announce (f : Fields) (width height : Int) : Prop where
  magic_word : f.magic.word = Graymap.magic
  width_word : Spells f.width.word width
  height_word : Spells f.height.word height
  value_word : Spells f.value.word 255

/-- A file cut into header, pixels and the bytes that are not looked at. -/
@[ext]
structure Layout extends Fields where
  pixels : List UInt8
  rest : List UInt8

def Layout.bytes (l : Layout) : List UInt8 := l.toFields.bytes ++ (l.pixels ++ l.rest)

/-- The layout is that of an image with these sides and pixels, at most `cap` of them. -/
structure Layout.Depicts (l : Layout) (cap : Int) (width height : Nat) (pixels : Array UInt8) :
    Prop where
  announced : l.Announce width height
  width_pos : 1 ≤ width
  height_pos : 1 ≤ height
  within_cap : (width * height : Int) ≤ cap
  within_limit : width * height ≤ Memory.limit
  pixels_eq : pixels.toList = l.pixels
  size_pixels : l.pixels.length = width * height

end Graymap

end EscapeTime
