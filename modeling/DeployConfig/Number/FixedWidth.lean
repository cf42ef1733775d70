/-
  Integers of a fixed width.

  A configuration number is read as a 64-bit integer and narrowed to the width of its field.  The
  class says which integers a width holds; narrowing either keeps the number or says on which side
  it lies outside.
-/

namespace DeployConfig

/-- A type that stands for the integers from `least` to `greatest`. -/
class FixedWidth (α : Type) where
  least : Int
  greatest : Int
  ofInt : Int → α
  toInt : α → Int
  ofInt_toInt : ∀ x, ofInt (toInt x) = x
  least_le : ∀ x, least ≤ toInt x
  le_greatest : ∀ x, toInt x ≤ greatest
  toInt_ofInt : ∀ n, least ≤ n → n ≤ greatest → toInt (ofInt n) = n

/-- On which side a number lies outside of a width. -/
inductive RangeError where
  | tooSmall
  | tooLarge
  deriving DecidableEq, Repr

/-- What a range error says. -/
def RangeError.message : RangeError → String
  | tooSmall => "number too small to fit in target type"
  | tooLarge => "number too large to fit in target type"

/-- The number at a width, if the width holds it. -/
def narrow (α : Type) [FixedWidth α] (n : Int) : Except RangeError α :=
  if n < FixedWidth.least α then .error .tooSmall
  else if FixedWidth.greatest α < n then .error .tooLarge
  else .ok (FixedWidth.ofInt n)

/-- A number of a width is kept by narrowing to that width. -/
theorem narrow_toInt {α : Type} [FixedWidth α] (x : α) :
    narrow α (FixedWidth.toInt x) = .ok x := by
  have := FixedWidth.least_le x
  have := FixedWidth.le_greatest x
  rw [narrow, if_neg (by omega), if_neg (by omega), FixedWidth.ofInt_toInt]

/-- Narrowing succeeds exactly on the numbers that the width holds, and keeps them. -/
theorem narrow_eq_ok_iff {α : Type} [FixedWidth α] {n : Int} {x : α} :
    narrow α n = .ok x ↔ FixedWidth.toInt x = n := by
  constructor
  · intro h
    simp only [narrow] at h
    split at h
    · cases h
    · split at h
      · cases h
      · cases h
        exact FixedWidth.toInt_ofInt n (by omega) (by omega)
  · rintro rfl
    exact narrow_toInt x

instance : FixedWidth Int8 where
  least := -128
  greatest := 127
  ofInt := Int8.ofInt
  toInt := Int8.toInt
  ofInt_toInt := fun x => Int8.ofInt_toInt x
  least_le := fun x => by have := Int8.le_toInt x; omega
  le_greatest := fun x => by have := Int8.toInt_lt x; omega
  toInt_ofInt := fun n low high => Int8.toInt_ofInt_of_le (by omega) (by omega)

instance : FixedWidth Int32 where
  least := -2147483648
  greatest := 2147483647
  ofInt := Int32.ofInt
  toInt := Int32.toInt
  ofInt_toInt := fun x => Int32.ofInt_toInt x
  least_le := fun x => by have := Int32.le_toInt x; omega
  le_greatest := fun x => by have := Int32.toInt_lt x; omega
  toInt_ofInt := fun n low high => Int32.toInt_ofInt_of_le (by omega) (by omega)

instance : FixedWidth Int64 where
  least := -9223372036854775808
  greatest := 9223372036854775807
  ofInt := Int64.ofInt
  toInt := Int64.toInt
  ofInt_toInt := fun x => Int64.ofInt_toInt x
  least_le := fun x => by have := Int64.le_toInt x; omega
  le_greatest := fun x => by have := Int64.toInt_lt x; omega
  toInt_ofInt := fun n low high => Int64.toInt_ofInt_of_le (by omega) (by omega)

instance : FixedWidth UInt8 where
  least := 0
  greatest := 255
  ofInt := fun n => UInt8.ofNat n.toNat
  toInt := fun x => x.toNat
  ofInt_toInt := fun x => by simp
  least_le := fun x => by omega
  le_greatest := fun x => by have := x.toNat_lt; omega
  toInt_ofInt := fun n low high => by
    rw [UInt8.toNat_ofNat_of_lt' (by simp only [UInt8.size]; omega)]; omega

instance : FixedWidth UInt16 where
  least := 0
  greatest := 65535
  ofInt := fun n => UInt16.ofNat n.toNat
  toInt := fun x => x.toNat
  ofInt_toInt := fun x => by simp
  least_le := fun x => by omega
  le_greatest := fun x => by have := x.toNat_lt; omega
  toInt_ofInt := fun n low high => by
    rw [UInt16.toNat_ofNat_of_lt' (by simp only [UInt16.size]; omega)]; omega

instance : FixedWidth UInt32 where
  least := 0
  greatest := 4294967295
  ofInt := fun n => UInt32.ofNat n.toNat
  toInt := fun x => x.toNat
  ofInt_toInt := fun x => by simp
  least_le := fun x => by omega
  le_greatest := fun x => by have := x.toNat_lt; omega
  toInt_ofInt := fun n low high => by
    rw [UInt32.toNat_ofNat_of_lt' (by simp only [UInt32.size]; omega)]; omega

instance : FixedWidth UInt64 where
  least := 0
  greatest := 18446744073709551615
  ofInt := fun n => UInt64.ofNat n.toNat
  toInt := fun x => x.toNat
  ofInt_toInt := fun x => by simp
  least_le := fun x => by omega
  le_greatest := fun x => by have := x.toNat_lt; omega
  toInt_ofInt := fun n low high => by
    rw [UInt64.toNat_ofNat_of_lt' (by simp only [UInt64.size]; omega)]; omega

end DeployConfig
