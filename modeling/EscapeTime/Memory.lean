import EscapeTime.Failure

/-!
# Pixel budgets and allocation

The number of pixels of an image is a machine integer, so the product of its sides is checked
before it is formed. A buffer is granted up to a fixed number of bytes; a crash of the grant is caught
and ends as a failure.
-/

namespace EscapeTime

namespace Memory

/-- The most bytes a single buffer may take, `2 ^ 48`. -/
def limit : Nat := 281474976710656

/-- The number of pixels of an image, which may not exceed a positive `cap`. -/
def pixels (width height cap : Int64) : Except Failure Int64 :=
  if width ≤ 0 ∨ height ≤ 0 then .error (.kind .rasterDimensions)
  else if Int64.maxValue / height < width then .error (.cause (.overflow width height))
  else if 0 < cap ∧ cap < width * height then .error (.cause (.overLimit (width * height) cap))
  else .ok (width * height)

/-- The length that the system grants to a buffer of `length` elements of `size` bytes. Asking for a
length that there cannot be is a misuse. -/
def grant (length : Int64) (size : Nat) : Except Crash Nat :=
  if length.toInt < 0 ∨ limit < length.toInt.toNat * size then .error .refusedLength
  else .ok length.toInt.toNat

/-- The length of a buffer. A negative one is refused beforehand, and a crash is caught. -/
def reserve (length : Int64) (size : Nat) : Except Failure Nat :=
  if length < 0 then .error (.cause (.negativeLength length))
  else (grant length size).mapError fun c => .cause (.refused c)

/-- A buffer filled with one value. -/
def allocate {α : Type} (length : Int64) (size : Nat) (fill : α) : Except Failure (Array α) :=
  (reserve length size).map fun n => Array.replicate n fill

theorem grant_eq_ok_iff {length : Int64} {size n : Nat} :
    grant length size = .ok n ↔ 0 ≤ length.toInt ∧ n = length.toInt.toNat ∧ n * size ≤ limit := by
  unfold grant
  split
  · rename_i hrefused
    constructor
    · nofun
    · rintro ⟨hpos, rfl, hfit⟩
      omega
  · rename_i hgranted
    obtain ⟨hpos, hfit⟩ := not_or.mp hgranted
    constructor
    · rintro ⟨⟩
      exact ⟨Int.not_lt.mp hpos, rfl, Nat.not_lt.mp hfit⟩
    · rintro ⟨-, rfl, -⟩
      rfl

theorem reserve_eq_ok {length : Int64} {size n : Nat} (h : reserve length size = .ok n) :
    0 ≤ length ∧ n = length.toInt.toNat ∧ n * size ≤ limit := by
  unfold reserve at h
  split at h
  · cases h
  · rename_i hneg
    cases hgrant : grant length size with
    | error c => rw [hgrant] at h; cases h
    | ok m =>
      rw [hgrant] at h
      cases h
      exact ⟨Int64.not_lt.mp hneg, (grant_eq_ok_iff.mp hgrant).2⟩

theorem allocate_eq_ok {α : Type} {length : Int64} {size : Nat} {fill : α} {buffer : Array α}
    (h : allocate length size fill = .ok buffer) :
    0 ≤ length ∧ buffer = Array.replicate length.toInt.toNat fill ∧
      length.toInt.toNat * size ≤ limit := by
  unfold allocate at h
  cases hr : reserve length size with
  | error f => rw [hr] at h; cases h
  | ok n =>
    rw [hr] at h
    cases h
    obtain ⟨hneg, rfl, hfit⟩ := reserve_eq_ok hr
    exact ⟨hneg, rfl, hfit⟩

theorem pixels_eq_ok {width height cap n : Int64} (h : pixels width height cap = .ok n) :
    0 < width.toInt ∧ 0 < height.toInt ∧ n.toInt = width.toInt * height.toInt := by
  unfold pixels at h
  split at h
  · cases h
  · rename_i hpos
    split at h
    · cases h
    · rename_i hfit
      have hw : 0 < width := Int64.not_le.mp fun hle => hpos (Or.inl hle)
      have hh : 0 < height := Int64.not_le.mp fun hle => hpos (Or.inr hle)
      have hw' : 0 < width.toInt := Int64.lt_iff_toInt_lt.mp hw
      have hh' : 0 < height.toInt := Int64.lt_iff_toInt_lt.mp hh
      have hn : width * height = n := by
        split at h
        · cases h
        · exact Except.ok.inj h
      rw [maxValue_div_lt_iff hh, Int.not_lt] at hfit
      rw [← hn, toInt_mul_of_le (Int.le_of_lt hw') (Int.le_of_lt hh') hfit]
      exact ⟨hw', hh', rfl⟩

end Memory

end EscapeTime
