/-
  Whole numbers above 63 bits.

  A floating-point number keeps 53 binary digits, so of the whole numbers from `2 ^ 63` up to
  `2 ^ 64` it keeps the multiples of 2048 only.

  1. **Rounding**: every other one is rounded to a multiple that is at most 1024 away
     (`ofNat_eq_finite`).
  2. **Digits**: at most 17 decimal digits are asked for, which are too few for a number of 19 or 20
     places (`Interval.two_le_shortest`).
  3. **Text**: so its last two places are filled with zeros (`text_ofNat_eq_append_zeros`).
-/
import DeployConfig.Number.Shortest
import DeployConfig.Proofs.Text.Integer

namespace DeployConfig.Binary64

/-! ## Scaling -/

theorem scale_natCast (base num den k : Nat) :
    scale base num den (k : Int) = (num * base ^ k, den) := by
  rw [scale, if_neg (by omega)]
  rfl

theorem scale_neg_natCast (base num den k : Nat) :
    scale base num den (-(k : Int)) = (num, den * base ^ k) := by
  rw [scale]
  cases k with
  | zero => simp
  | succ k =>
    rw [if_pos (by omega)]
    rfl

/-! ## Rounding -/

/-- A quotient is rounded by at most one half. -/
theorem roundDiv_near (num : Nat) {den : Nat} (pos : 0 < den) :
    2 * (den * roundDiv num den) ≤ 2 * num + den ∧
    2 * num ≤ 2 * (den * roundDiv num den) + den := by
  have parts := Nat.div_add_mod num den
  have small := Nat.mod_lt num pos
  have next : den * (num / den + 1) = den * (num / den) + den := Nat.mul_succ ..
  simp only [roundDiv]
  split
  · omega
  · split
    · omega
    · rcases Nat.mod_two_eq_zero_or_one (num / den) with even | odd
      · rw [even, Nat.add_zero]
        omega
      · rw [odd]
        omega

/-- The exponent of a whole number is that of the power of two below it. -/
theorem binaryExponent_whole {n k : Nat} (low : 2 ^ k ≤ n) (high : n < 2 ^ (k + 1)) :
    binaryExponent n 1 = k := by
  have pos : n ≠ 0 := by
    have := Nat.two_pow_pos k
    omega
  have log : Nat.log2 n = k := (Nat.log2_eq_iff pos).2 ⟨low, high⟩
  have one : Nat.log2 1 = 0 := by decide
  have guess : ((Nat.log2 n : Nat) : Int) - (Nat.log2 1 : Nat) = k := by omega
  simp only [binaryExponent, guess, scale_neg_natCast]
  rw [if_neg (by omega)]

/-- **A whole number of 64 binary digits is rounded to a multiple of 2048**, which may be the next
    power of two. -/
theorem ofNat_eq_finite {n : Nat} (low : 2 ^ 63 ≤ n) (high : n < 2 ^ 64) :
    ∃ mantissa exponent : Nat, ofNat n = .finite false mantissa exponent ∧ 11 ≤ exponent ∧
      2 ^ 63 ≤ mantissa * 2 ^ exponent ∧ mantissa * 2 ^ exponent ≤ n + 1024 ∧
      n ≤ mantissa * 2 ^ exponent + 1024 := by
  have length : (Text.digits 10 n).length ≤ 20 := (Text.length_digits_le_iff n 19).2 (by omega)
  have exponent : max (binaryExponent n 1 - 52) (-1074) = ((11 : Nat) : Int) := by
    rw [binaryExponent_whole low high]
    rfl
  have ratio : ofNat n = ofRatio false n 1 := by
    rw [ofNat, ofDecimal, if_neg (by omega)]
    simp only
    rw [if_neg (by omega), if_neg (by omega)]
    simp [scale]
  have near := roundDiv_near n (show 0 < 1 * 2 ^ 11 by decide)
  rw [ratio]
  unfold ofRatio
  simp only [exponent, scale_neg_natCast]
  generalize roundDiv n (1 * 2 ^ 11) = mantissa at near
  by_cases next : mantissa = Nat.pow 2 53
  · rw [if_pos next]
    have power : Nat.pow 2 53 = 9007199254740992 := by decide
    refine ⟨Nat.pow 2 52, 12, rfl, by decide, ?_⟩
    have same : Nat.pow 2 52 * 2 ^ 12 = 18446744073709551616 := by decide
    omega
  · rw [if_neg next]
    refine ⟨mantissa, 11, rfl, by decide, ?_⟩
    omega

/-! ## Digits -/

/-- The point of a whole number stands behind its digits. -/
theorem decimalPoint_whole {n : Nat} (pos : 0 < n) :
    decimalPoint n 1 = (Text.digits 10 n).length := by
  have one : (Text.digits 10 1).length = 1 := by rw [Text.digits_of_lt (by decide)]; rfl
  obtain ⟨c, rest, written, -⟩ := Text.digits_eq_cons n
  have length : (Text.digits 10 n).length = rest.length + 1 := by rw [written, List.length_cons]
  have guess : ((Text.digits 10 n).length : Int) - ((Text.digits 10 1).length : Nat) =
      (rest.length : Nat) := by omega
  -- A number of so many digits reaches the power of ten that is guessed.
  have reached : ¬ n < 1 * 10 ^ rest.length := by
    cases digits : rest.length with
    | zero => omega
    | succ k =>
      have enough := Text.length_digits_le_iff n k
      omega
  simp only [decimalPoint, guess, scale_neg_natCast]
  rw [if_neg reached, length]
  rfl

namespace Interval

/-- A candidate of so many digits is a multiple of the power of ten that is left of the places. -/
theorem candidate?_snd {i : Interval} {point : Int} {count : Nat} {found : Nat × Int}
    (h : i.candidate? point count = some found) : found.2 = point - count := by
  simp only [candidate?] at h
  split at h
  · cases h
    rfl
  · split at h
    · cases h
      rfl
    · split at h
      · cases h
        rfl
      · cases h

/-- Seventeen digits of a number with nineteen places or more leave two places. -/
theorem two_le_shortest {i : Interval} {point : Int} (places : 19 ≤ point)
    (whole : 2 ≤ i.exponent) (more count : Nat) (few : count + more ≤ 18) :
    2 ≤ (i.shortest point count more).2 := by
  induction more generalizing count with
  | zero => exact whole
  | succ more ih =>
    rw [shortest]
    cases found : i.candidate? point count with
    | some candidate =>
      have unit := candidate?_snd found
      show 2 ≤ candidate.2
      omega
    | none => exact ih (count + 1) (by omega)

end Interval

/-! ## Text -/

/-- Digits that leave two places or more are followed by zeros. -/
theorem Decimal.positional_eq_append_zeros {d : Decimal}
    (places : d.digits.length + 2 ≤ d.point) : ∃ front, d.positional = front ++ ['0', '0'] := by
  obtain ⟨more, left⟩ : ∃ more, d.point.toNat - d.digits.length = more + 2 :=
    ⟨d.point.toNat - d.digits.length - 2, by omega⟩
  rw [positional, if_neg (by omega)]
  simp only
  rw [if_pos (by omega), left, ← List.replicate_append_replicate, ← List.append_assoc]
  exact ⟨_, rfl⟩

/-- The digits that are kept are among those that were found. -/
theorem length_dropTrailing_le (ds : List Char) :
    ((ds.reverse.dropWhile (· == '0')).reverse).length ≤ ds.length := by
  have kept := (List.dropWhile_sublist (l := ds.reverse) (· == '0')).length_le
  rw [List.length_reverse]
  rw [List.length_reverse] at kept
  exact kept

/-- A whole number of nineteen places or more, far above 53 binary digits, ends with two zeros. -/
theorem positional_shortest_eq_append_zeros {mantissa exponent : Nat} (whole : 4 ≤ exponent)
    (large : 10 ^ 18 ≤ mantissa * 2 ^ exponent) :
    ∃ front, (shortest mantissa exponent).positional = front ++ ['0', '0'] := by
  have nonzero : mantissa ≠ 0 := by
    rintro rfl
    omega
  have places : (19 : Int) ≤ decimalPoint (mantissa * 2 ^ exponent) 1 := by
    have many := Text.length_digits_le_iff (mantissa * 2 ^ exponent) 17
    rw [decimalPoint_whole (by omega)]
    omega
  have fine : 2 ≤ (interval mantissa exponent).exponent := by
    show (2 : Int) ≤ (exponent : Int) - 2
    omega
  have unit := Interval.two_le_shortest places fine 17 1 (by omega)
  simp only [shortest, if_neg nonzero, scale_natCast]
  generalize Interval.shortest _ _ 1 17 = found at unit
  refine Decimal.positional_eq_append_zeros ?_
  have kept := length_dropTrailing_le (Text.digits 10 found.1)
  show ((((Text.digits 10 found.1).reverse.dropWhile (· == '0')).reverse.length : Nat) : Int) + 2 ≤
    ((Text.digits 10 found.1).length : Int) + found.2
  omega

/-- **The text of a rounded whole number of 64 binary digits ends with two zeros.** -/
theorem text_ofNat_eq_append_zeros {n : Nat} (low : 2 ^ 63 ≤ n) (high : n < 2 ^ 64) :
    ∃ front, (ofNat n).text = String.ofList (front ++ ['0', '0']) := by
  obtain ⟨mantissa, exponent, rounded, whole, large, -⟩ := ofNat_eq_finite low high
  have huge : 10 ^ 18 ≤ mantissa * 2 ^ exponent := by omega
  obtain ⟨front, written⟩ := positional_shortest_eq_append_zeros (by omega) huge
  refine ⟨front, ?_⟩
  rw [rounded, text, written]
  rfl

/-- So only a multiple of one hundred can have its own digits after rounding. -/
theorem dvd_of_text_ofNat {n : Nat} (low : 2 ^ 63 ≤ n) (high : n < 2 ^ 64)
    (kept : (ofNat n).text = Text.decimal n) : 100 ∣ n := by
  obtain ⟨front, written⟩ := text_ofNat_eq_append_zeros low high
  have same : Text.digits 10 n = front ++ ['0'] ++ ['0'] := by
    rw [written, Text.decimal, if_neg (by omega)] at kept
    rw [List.append_assoc]
    exact (String.ofList_injective kept).symm
  obtain ⟨others, last⟩ := Text.digits_eq_append_zero (by omega) same
  obtain ⟨-, last'⟩ := Text.digits_eq_append_zero (by omega) others
  omega

end DeployConfig.Binary64
