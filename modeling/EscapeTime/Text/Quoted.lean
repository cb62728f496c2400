import EscapeTime.Text.Printable

/-!
# Quoted text

Text between double quotes, with everything that is not printable written as an escape. Byte strings
are read as UTF-8 with every byte accounted for: one that does not start a well-formed character
stands for itself and is shown by its value.
-/

namespace EscapeTime

namespace Utf8

/-- A character, or a byte that belongs to none. -/
inductive Piece where
  | char (c : Char)
  | stray (b : UInt8)
  deriving DecidableEq, Repr

def isTail (b : UInt8) : Bool := decide (0x80 ≤ b ∧ b ≤ 0xbf)

/-- The least second byte after a given first byte. It excludes overlong forms. -/
def secondLow (first : UInt8) : UInt8 :=
  if first = 0xe0 then 0xa0 else if first = 0xf0 then 0x90 else 0x80

/-- The greatest second byte after a given first byte. It excludes surrogates and values past
the last code point. -/
def secondHigh (first : UInt8) : UInt8 :=
  if first = 0xed then 0x9f else if first = 0xf4 then 0x8f else 0xbf

def isSecond (first second : UInt8) : Bool :=
  decide (secondLow first ≤ second ∧ second ≤ secondHigh first)

def payload (b : UInt8) : Nat := b.toNat % 0x40

/-- The character that starts with `first` and goes on in `rest`, with the number of bytes it
takes from `rest`. -/
def character? (first : UInt8) (rest : List UInt8) : Option (Char × Nat) :=
  if first < 0x80 then some (Char.ofNat first.toNat, 0)
  else if first < 0xc2 then none
  else if first ≤ 0xdf then
    match rest with
    | b :: _ =>
      if isTail b then some (Char.ofNat (first.toNat % 0x20 * 0x40 + payload b), 1) else none
    | _ => none
  else if first ≤ 0xef then
    match rest with
    | b :: c :: _ =>
      if isSecond first b && isTail c then
        some (Char.ofNat ((first.toNat % 0x10 * 0x40 + payload b) * 0x40 + payload c), 2)
      else none
    | _ => none
  else if first ≤ 0xf4 then
    match rest with
    | b :: c :: d :: _ =>
      if isSecond first b && isTail c && isTail d then
        some (Char.ofNat
          (((first.toNat % 0x08 * 0x40 + payload b) * 0x40 + payload c) * 0x40 + payload d), 3)
      else none
    | _ => none
  else none

/-- The pieces of a byte string after its first `skip` bytes. -/
def piecesAfter : Nat → List UInt8 → List Piece
  | _, [] => []
  | skip + 1, _ :: rest => piecesAfter skip rest
  | 0, b :: rest =>
    match character? b rest with
    | some (c, taken) => .char c :: piecesAfter taken rest
    | none => .stray b :: piecesAfter 0 rest

def pieces (bytes : List UInt8) : List Piece := piecesAfter 0 bytes

end Utf8

namespace Quoted

/-- The lower-case hexadecimal digits of `n`, padded with zeros to `width`. -/
def hex (width n : Nat) : List Char :=
  let digits := Nat.toDigits 16 n
  List.replicate (width - digits.length) '0' ++ digits

def short? (c : Char) : Option Char :=
  if c = '\x07' then some 'a'
  else if c = '\x08' then some 'b'
  else if c = '\x0c' then some 'f'
  else if c = '\n' then some 'n'
  else if c = '\x0d' then some 'r'
  else if c = '\t' then some 't'
  else if c = '\x0b' then some 'v'
  else none

def character (c : Char) : List Char :=
  if c = '"' ∨ c = '\\' then ['\\', c]
  else if isPrintable c then [c]
  else
    match short? c with
    | some letter => ['\\', letter]
    | none =>
      if c.toNat < 0x80 then '\\' :: 'x' :: hex 2 c.toNat
      else if c.toNat < 0x10000 then '\\' :: 'u' :: hex 4 c.toNat
      else '\\' :: 'U' :: hex 8 c.toNat

def piece : Utf8.Piece → List Char
  | .char c => character c
  | .stray b => '\\' :: 'x' :: hex 2 b.toNat

def bytes (bs : List UInt8) : String :=
  String.ofList ('"' :: (Utf8.pieces bs).flatMap piece ++ ['"'])

def text (s : String) : String :=
  String.ofList ('"' :: s.toList.flatMap character ++ ['"'])

/-- Does a bare value have to be quoted in a `key=value` line? -/
def isNeeded (s : String) : Bool :=
  s.isEmpty || s.toList.any fun c =>
    if c.toNat < 0x80 then c.toNat < 0x20 || c = ' ' || c = '=' || c = '"'
    else c = '\uFFFD' || !isPrintable c

def value (s : String) : String := if isNeeded s then text s else s

end Quoted

end EscapeTime
