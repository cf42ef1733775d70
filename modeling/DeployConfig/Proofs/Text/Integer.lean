/-
  Decimal text is read back.

  Digits are written most significant first, by cutting the last one off, while reading runs from
  the front with an accumulator.  The two meet in the last digit: what was read before it is the
  number without it (`nat?_digits`).

  Reading takes more than writing produces, but only decimal digits behind at most one sign
  (`int?_eq_some_iff`).

  The last digit also tells the remainder, and cutting it off as often as there are digits tells how
  large the number is (`length_digits_le_iff`).
-/
import DeployConfig.Text.Blank
import DeployConfig.Text.Integer
import Mathlib.Algebra.Group.Nat.Defs

namespace DeployConfig.Text

/-- The character of a digit has the value of the digit. -/
theorem digitValue?_digitChar {d : Nat} (h : d < 10) : digitValue? 10 (digitChar d) = some d := by
  have all : ∀ d < 10, digitValue? 10 (digitChar d) = some d := by decide
  exact all d h

/-- Digits behind others are read on from what those write. -/
theorem natAfter?_append (radix acc : Nat) (first second : List Char) :
    natAfter? radix acc (first ++ second) =
      (natAfter? radix acc first).bind fun n => natAfter? radix n second := by
  induction first generalizing acc with
  | nil => rfl
  | cons c rest ih =>
    simp only [List.cons_append, natAfter?]
    cases digitValue? radix c with
    | none => rfl
    | some d => exact ih _

theorem natAfter?_digits (n : Nat) : natAfter? 10 0 (digits 10 n) = some n := by
  induction n using Nat.strongRecOn with
  | ind n ih =>
    rw [digits]
    split
    · have small : n < 10 := by omega
      simp [natAfter?, digitValue?_digitChar small]
    · have smaller : n / 10 < n := by omega
      have last : n % 10 < 10 := by omega
      rw [natAfter?_append, ih (n / 10) smaller]
      simp only [Option.bind_some, natAfter?, digitValue?_digitChar last]
      congr 1
      omega

/-- A number is written with at least one digit, and no sign stands in front. -/
theorem digits_eq_cons (n : Nat) : ∃ c rest, digits 10 n = c :: rest ∧ c ≠ '+' ∧ c ≠ '-' := by
  have unsigned : ∀ d < 10, digitChar d ≠ '+' ∧ digitChar d ≠ '-' := by decide
  induction n using Nat.strongRecOn with
  | ind n ih =>
    rw [digits]
    split
    · have small : n < 10 := by omega
      exact ⟨digitChar n, [], rfl, unsigned n small⟩
    · have smaller : n / 10 < n := by omega
      obtain ⟨c, rest, front, sign⟩ := ih (n / 10) smaller
      exact ⟨c, rest ++ [digitChar (n % 10)], by rw [front]; rfl, sign⟩

/-- Digits are read back as the number that they write. -/
theorem nat?_digits (n : Nat) : nat? 10 (digits 10 n) = some n := by
  obtain ⟨c, rest, written, -⟩ := digits_eq_cons n
  have read := natAfter?_digits n
  rw [written] at read ⊢
  exact read

/-- **The decimal text of an integer is read back as that integer.** -/
theorem int?_decimal (n : Int) : int? (decimal n).toList = some n := by
  rw [decimal]
  split
  · rw [String.toList_ofList, int?, nat?_digits]
    show some (-(n.natAbs : Int)) = some n
    congr 1
    omega
  · obtain ⟨c, rest, written, plus, minus⟩ := digits_eq_cons n.natAbs
    have read := nat?_digits n.natAbs
    rw [written] at read
    rw [String.toList_ofList, written, int?, read]
    · show some (n.natAbs : Int) = some n
      congr 1
      omega
    · exact fun _ same => plus (List.cons.inj same).1
    · exact fun _ same => minus (List.cons.inj same).1

/-! ## Which texts are read -/

/-- A text writes an integer: decimal digits, at least one, behind at most one sign. -/
inductive WritesInt : List Char → Int → Prop where
  | unsigned {cs : List Char} (written : cs ≠ []) (digits : ∀ c ∈ cs, c.isDigit = true) :
      WritesInt cs (Nat.ofDigitChars 10 cs 0)
  | plus {cs : List Char} (written : cs ≠ []) (digits : ∀ c ∈ cs, c.isDigit = true) :
      WritesInt ('+' :: cs) (Nat.ofDigitChars 10 cs 0)
  | minus {cs : List Char} (written : cs ≠ []) (digits : ∀ c ∈ cs, c.isDigit = true) :
      WritesInt ('-' :: cs) (-(Nat.ofDigitChars 10 cs 0 : Int))

/-- The decimal digits are the characters from `0` to `9`, each with its distance from `0`. -/
theorem digitValue?_ten (c : Char) :
    digitValue? 10 c = if c.isDigit then some (c.toNat - '0'.toNat) else none := by
  have zero : '0'.toNat = 48 := rfl
  have digit : c.isDigit = true ↔ 48 ≤ c.toNat ∧ c.toNat ≤ 57 := by
    simp only [Char.isDigit, Bool.and_eq_true, decide_eq_true_eq, UInt32.le_iff_toNat_le]
    rfl
  simp only [digitValue?, Bool.and_eq_true, decide_eq_true_eq]
  by_cases h : c.isDigit = true
  · have range := digit.1 h
    have small : c.toNat - 48 < 10 := by omega
    rw [if_pos h, if_pos range, zero, Option.bind_some, if_pos small]
  · have range : ¬ (48 ≤ c.toNat ∧ c.toNat ≤ 57) := fun inside => h (digit.2 inside)
    rw [if_neg h, if_neg range]
    -- A letter counts from ten, which is too much for a decimal digit.
    split
    · rename_i letter
      have large : ¬ c.toNat - 0x57 < 10 := by omega
      rw [Option.bind_some, if_neg large]
    · split
      · rename_i letter
        have large : ¬ c.toNat - 0x37 < 10 := by omega
        rw [Option.bind_some, if_neg large]
      · rfl

theorem natAfter?_eq_some_iff {acc n : Nat} {cs : List Char} :
    natAfter? 10 acc cs = some n ↔
      (∀ c ∈ cs, c.isDigit = true) ∧ Nat.ofDigitChars 10 cs acc = n := by
  induction cs generalizing acc with
  | nil => simp [natAfter?, Nat.ofDigitChars]
  | cons c rest ih =>
    rw [natAfter?, digitValue?_ten, List.forall_mem_cons, Nat.ofDigitChars_cons]
    by_cases h : c.isDigit = true
    · rw [if_pos h, Option.bind_some, ih, Nat.mul_comm acc 10]
      simp only [h, true_and]
    · simp only [h, Bool.false_eq_true, if_false, Option.bind_none, reduceCtorEq, false_and]

theorem nat?_eq_some_iff {n : Nat} {cs : List Char} :
    nat? 10 cs = some n ↔
      cs ≠ [] ∧ (∀ c ∈ cs, c.isDigit = true) ∧ Nat.ofDigitChars 10 cs 0 = n := by
  cases cs with
  | nil => simp [nat?]
  | cons c rest =>
    rw [nat?, natAfter?_eq_some_iff]
    · simp
    · simp

/-- **Reading an integer takes exactly the texts that write one.** -/
theorem int?_eq_some_iff {cs : List Char} {n : Int} : int? cs = some n ↔ WritesInt cs n := by
  constructor
  · intro read
    have taken {digits : List Char} {f : Int → Int}
        (read : Option.map f (nat? 10 digits >>= fun m => pure (m : Int)) = some n) :
        digits ≠ [] ∧ (∀ c ∈ digits, c.isDigit = true) ∧ f (Nat.ofDigitChars 10 digits 0) = n := by
      cases magnitude : nat? 10 digits with
      | none => simp [magnitude] at read
      | some m =>
        obtain ⟨written, all, rfl⟩ := nat?_eq_some_iff.1 magnitude
        rw [magnitude] at read
        exact ⟨written, all, Option.some.inj read⟩
    simp only [int?] at read
    split at read
    · obtain ⟨written, digits, rfl⟩ := taken read
      exact .plus written digits
    · obtain ⟨written, digits, rfl⟩ := taken read
      exact .minus written digits
    · obtain ⟨written, digits, rfl⟩ := taken read
      exact .unsigned written digits
  · intro writes
    cases writes with
    | plus written digits => rw [int?, nat?_eq_some_iff.2 ⟨written, digits, rfl⟩]; rfl
    | minus written digits => rw [int?, nat?_eq_some_iff.2 ⟨written, digits, rfl⟩]; rfl
    | unsigned written digits =>
      -- A sign is no digit, so the first character is none.
      rw [int?, nat?_eq_some_iff.2 ⟨written, digits, rfl⟩]
      · rfl
      · rintro rest rfl
        exact absurd (digits '+' List.mem_cons_self) (by decide)
      · rintro rest rfl
        exact absurd (digits '-' List.mem_cons_self) (by decide)

/-- A digit is no white space. -/
theorem isBlank_of_isDigit {c : Char} (digit : c.isDigit = true) : isBlank c = false := by
  simp only [Char.isDigit, Bool.and_eq_true, decide_eq_true_eq, UInt32.le_iff_toNat_le] at digit
  have low : 48 ≤ c.toNat := digit.1
  have high : c.toNat ≤ 57 := digit.2
  simp only [isBlank, Bool.or_eq_false_iff, Bool.and_eq_false_iff, decide_eq_false_iff_not,
    beq_eq_false_iff_ne]
  omega

/-- A text that writes an integer is not blank. -/
theorem WritesInt.not_blank {cs : List Char} {n : Int} (writes : WritesInt cs n) :
    cs.all isBlank = false := by
  have first {c : Char} {rest : List Char} (visible : isBlank c = false) :
      (c :: rest).all isBlank = false := by
    rw [List.all_cons, visible, Bool.false_and]
  cases writes with
  | plus written digits => exact first (by decide)
  | minus written digits => exact first (by decide)
  | unsigned written digits =>
    obtain ⟨c, rest, rfl⟩ := List.exists_cons_of_ne_nil written
    exact first (isBlank_of_isDigit (digits c List.mem_cons_self))

/-- The decimal text of an integer is not blank. -/
theorem blank_decimal (n : Int) : blank (decimal n) = false :=
  (int?_eq_some_iff.1 (int?_decimal n)).not_blank

/-! ## How many digits, and the last ones -/

theorem digits_of_lt {n : Nat} (small : n < 10) : digits 10 n = [digitChar n] := by
  rw [digits, dif_pos (.inl small)]

theorem digits_of_le {n : Nat} (large : 10 ≤ n) :
    digits 10 n = digits 10 (n / 10) ++ [digitChar (n % 10)] := by
  rw [digits, dif_neg (by omega)]

/-- A number has at most so many digits if it is below that power of ten. -/
theorem length_digits_le_iff (n k : Nat) : (digits 10 n).length ≤ k + 1 ↔ n < 10 ^ (k + 1) := by
  induction k generalizing n with
  | zero =>
    rcases Nat.lt_or_ge n 10 with small | large
    · simp [digits_of_lt small, small]
    · have cut : digits 10 (n / 10) ≠ [] := by
        obtain ⟨c, rest, written, -⟩ := digits_eq_cons (n / 10)
        rw [written]
        exact List.cons_ne_nil c rest
      have some_digit := List.length_pos_iff.2 cut
      rw [digits_of_le large, List.length_append, List.length_singleton]
      omega
  | succ k ih =>
    rcases Nat.lt_or_ge n 10 with small | large
    · have power : 10 ^ 1 ≤ 10 ^ (k + 1 + 1) := Nat.pow_le_pow_right (by decide) (by omega)
      have one : (digits 10 n).length = 1 := by rw [digits_of_lt small, List.length_singleton]
      omega
    · rw [digits_of_le large, List.length_append, List.length_singleton, Nat.add_le_add_iff_right,
        ih (n / 10), Nat.div_lt_iff_lt_mul (by decide), ← Nat.pow_succ]

/-- A number of several digits of which the last one is zero is a multiple of ten. -/
theorem digits_eq_append_zero {n : Nat} {front : List Char} (large : 10 ≤ n)
    (written : digits 10 n = front ++ ['0']) : digits 10 (n / 10) = front ∧ n % 10 = 0 := by
  have zero : ∀ d < 10, digitChar d = '0' → d = 0 := by decide
  rw [digits_of_le large] at written
  obtain ⟨others, last⟩ := List.append_inj' written rfl
  exact ⟨others, zero (n % 10) (Nat.mod_lt n (by decide)) (List.cons.inj last).1⟩

end DeployConfig.Text
