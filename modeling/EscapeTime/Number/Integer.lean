/-!
# Machine integers and how they are written

Sizes, counts and coordinates are 64-bit integers in two's complement: arithmetic on them wraps, and
the lemmas say when it does not. A numeral is decimal, with one sign at most when it is read; a
literal may also carry a base mark and underscores between its digits.
-/

namespace EscapeTime

/-- The largest machine integer, `2 ^ 63 - 1`. -/
def maxInt : Int := 9223372036854775807

def minInt : Int := -9223372036854775808

/-- The machine integer with a given value, if there is one. -/
def machineInt? (n : Int) : Option Int64 :=
  if minInt ≤ n ∧ n ≤ maxInt then some (Int64.ofInt n) else none

theorem toInt_mul_of_le {a b : Int64} (ha : 0 ≤ a.toInt) (hb : 0 ≤ b.toInt)
    (h : a.toInt * b.toInt ≤ maxInt) : (a * b).toInt = a.toInt * b.toInt := by
  have hnonneg : 0 ≤ a.toInt * b.toInt := Int.mul_nonneg ha hb
  unfold maxInt at h
  rw [Int64.toInt_mul]
  exact Int.bmod_eq_of_le (by omega) (by omega)

theorem toInt_add_of_le {a b : Int64} (ha : 0 ≤ a.toInt) (hb : 0 ≤ b.toInt)
    (h : a.toInt + b.toInt ≤ maxInt) : (a + b).toInt = a.toInt + b.toInt := by
  unfold maxInt at h
  rw [Int64.toInt_add]
  exact Int.bmod_eq_of_le (by omega) (by omega)

theorem toInt_min (a b : Int64) : (min a b).toInt = min a.toInt b.toInt := by
  by_cases h : a ≤ b
  · rw [show min a b = a from if_pos h, Int.min_eq_left (Int64.le_iff_toInt_le.mp h)]
  · have hlt := Int64.lt_iff_toInt_lt.mp (Int64.not_le.mp h)
    rw [show min a b = b from if_neg h, Int.min_eq_right (by omega)]

theorem toInt_max (a b : Int64) : (max a b).toInt = max a.toInt b.toInt := by
  by_cases h : a ≤ b
  · rw [show max a b = b from if_pos h, Int.max_eq_right (Int64.le_iff_toInt_le.mp h)]
  · have hlt := Int64.lt_iff_toInt_lt.mp (Int64.not_le.mp h)
    rw [show max a b = a from if_neg h, Int.max_eq_left (by omega)]

theorem eq_ofNat_of_toInt {x : Int64} {k : Nat} (h : x.toInt = k) : x = Int64.ofNat k := by
  rw [← Int64.ofInt_toInt x, h, Int64.ofInt_eq_ofNat]

/-- Comparing with a quotient tells whether a product is a machine integer. -/
theorem maxValue_div_lt_iff {a b : Int64} (hb : 0 < b) :
    Int64.maxValue / b < a ↔ maxInt < a.toInt * b.toInt := by
  have hpos : 0 < b.toInt := Int64.lt_iff_toInt_lt.mp hb
  have hne : Int64.maxValue ≠ Int64.minValue := by decide
  rw [Int64.lt_iff_toInt_lt, Int64.toInt_div_of_ne_left _ _ hne, Int64.toInt_maxValue,
    Int.tdiv_eq_ediv_of_nonneg (by decide), ← Int.not_le, ← Int.not_le,
    Int.le_ediv_iff_mul_le hpos]
  rfl

namespace Numeral

/-- The decimal digits of a natural number, most significant first. -/
def ofNat (n : Nat) : List Char := Nat.toDigits 10 n

def ofInt : Int → List Char
  | .ofNat n => ofNat n
  | .negSucc n => '-' :: ofNat (n + 1)

def text (n : Int) : String := String.ofList (ofInt n)

/-- The value of a nonempty string of digits. -/
def magnitude? (cs : List Char) : Option Nat :=
  if cs ≠ [] ∧ cs.all Char.isDigit then some (Nat.ofDigitChars 10 cs 0) else none

/-- The value of a numeral with at most one sign. -/
def integer? : List Char → Option Int
  | '-' :: cs => (magnitude? cs).map fun n : Nat => -(n : Int)
  | '+' :: cs => (magnitude? cs).map fun n : Nat => (n : Int)
  | cs => (magnitude? cs).map fun n : Nat => (n : Int)

def read? (cs : List Char) : Option Int64 :=
  (integer? cs).bind machineInt?

/-- Puts a comma after every third digit of a reversed numeral. -/
def groupReversed : List Char → List Char
  | a :: b :: c :: rest =>
    if rest = [] then [a, b, c] else a :: b :: c :: ',' :: groupReversed rest
  | short => short

def grouped (n : Int) : String :=
  let digits := (groupReversed (ofNat n.natAbs).reverse).reverse
  String.ofList (if n < 0 then '-' :: digits else digits)

end Numeral

namespace Literal

inductive Fault where
  | malformed
  | outOfRange
  deriving DecidableEq, Repr

def digit? (base : Nat) (c : Char) : Option Nat :=
  let value? :=
    if c.isDigit then some (c.toNat - '0'.toNat)
    else if c.isLower then some (c.toNat - 'a'.toNat + 10)
    else if c.isUpper then some (c.toNat - 'A'.toNat + 10)
    else none
  value?.filter (· < base)

def maxWord : Nat := 18446744073709551615

/-- The value of the digits, skipping underscores. Reading stops at the first character that is
no digit or that takes the value past 64 bits, whichever comes first. -/
def scan (base : Nat) : List Char → Nat → Except Fault Nat
  | [], value => .ok value
  | c :: cs, value =>
    if c = '_' then scan base cs value
    else
      match digit? base c with
      | none => .error .malformed
      | some d =>
        if maxWord < value * base + d then .error .outOfRange
        else scan base cs (value * base + d)

/-- Every underscore stands between a digit, or the base mark, and a digit. -/
def separated (afterDigit : Bool) : List Char → Bool
  | [] => true
  | c :: cs =>
    if c = '_' then
      afterDigit && !cs.isEmpty && cs.head? != some '_' && separated false cs
    else separated true cs

/-- Splits off the base mark: the base, whether a mark was there, and the digits. -/
def base : List Char → Nat × Bool × List Char
  | ['0'] => (8, true, [])
  | ['0', c] => (8, true, [c])
  | '0' :: mark :: digits =>
    if mark = 'x' ∨ mark = 'X' then (16, true, digits)
    else if mark = 'o' ∨ mark = 'O' then (8, true, digits)
    else if mark = 'b' ∨ mark = 'B' then (2, true, digits)
    else (8, true, mark :: digits)
  | digits => (10, false, digits)

def magnitude (cs : List Char) : Except Fault Nat :=
  if cs = [] then .error .malformed
  else
    let (b, marked, digits) := base cs
    match scan b digits 0 with
    | .error fault => .error fault
    | .ok value => if separated marked digits then .ok value else .error .malformed

def read (cs : List Char) : Except Fault Int64 :=
  let (negative, rest) :=
    match cs with
    | '-' :: rest => (true, rest)
    | '+' :: rest => (false, rest)
    | rest => (false, rest)
  match magnitude rest with
  | .error fault => .error fault
  | .ok value =>
    match machineInt? (if negative then -(value : Int) else value) with
    | some n => .ok n
    | none => .error .outOfRange

end Literal

end EscapeTime
