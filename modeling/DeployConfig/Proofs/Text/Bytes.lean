/-
  The order of bytes.

  Texts are ordered by their characters, and that is also the order of their UTF-8 bytes
  (`bytes_lt`).

  1. **Form**: a character is a first byte, which tells how many bytes follow, and following bytes,
     which hold six bits each (`utf8EncodeChar_eq`).
  2. **The crux** is that a character before another one has bytes before those of the other,
     whatever stands behind either (`encoded_lt`): the first bytes decide, or else they are the same
     and the following ones are compared digit by digit.
-/
import Mathlib.Algebra.Group.Nat.Defs
import Mathlib.Tactic.SplitIfs

namespace DeployConfig.Text

/-- The UTF-8 bytes of a text. -/
def bytes (s : String) : List UInt8 := s.toByteArray.data.toList

theorem byte_lt {m n : Nat} (less : m < n) (bound : n < 256) : UInt8.ofNat m < UInt8.ofNat n := by
  rw [UInt8.lt_iff_toNat_lt, UInt8.toNat_ofNat', UInt8.toNat_ofNat']
  omega

/-! ## Following bytes -/

/-- The last bytes of a character with a number, each of which holds six bits of it. -/
def following : Nat → Nat → List UInt8
  | 0, _ => []
  | k + 1, n => UInt8.ofNat (n / 64 ^ k % 64 + 0x80) :: following k n

/-- Numbers whose higher bits are the same are compared by the following bytes. -/
theorem following_lt {k m n : Nat} (same : m / 64 ^ k = n / 64 ^ k) (less : m < n)
    (xs ys : List UInt8) : following k m ++ xs < following k n ++ ys := by
  induction k with
  | zero =>
    rw [Nat.pow_zero, Nat.div_one, Nat.div_one] at same
    omega
  | succ k ih =>
    rw [Nat.pow_succ, ← Nat.div_div_eq_div_mul, ← Nat.div_div_eq_div_mul] at same
    have le : m / 64 ^ k ≤ n / 64 ^ k := Nat.div_le_div_right (Nat.le_of_lt less)
    rw [following, following, List.cons_append, List.cons_append, List.cons_lt_cons_iff]
    rcases Nat.lt_or_eq_of_le le with digit | digit
    · exact .inl (byte_lt (by omega) (by omega))
    · exact .inr ⟨by rw [digit], ih digit⟩

/-! ## First bytes -/

/-- How many bytes follow the first one of a character with a number. -/
def followers (n : Nat) : Nat :=
  if n ≤ 0x7f then 0 else if n ≤ 0x7ff then 1 else if n ≤ 0xffff then 2 else 3

/-- The least number of a first byte that so many bytes follow. -/
def leastFirst : Nat → Nat
  | 0 => 0
  | 1 => 0xc0
  | 2 => 0xe0
  | _ => 0xf0

/-- The number of the first byte of a character with a number. -/
def firstByte (n : Nat) : Nat := leastFirst (followers n) + n / 64 ^ followers n

/-- A greater number has a greater first byte, or else differs in the following bytes only. -/
theorem firstByte_lt_or_same {m n : Nat} (less : m < n) (bound : n < 0x110000) :
    (firstByte m < firstByte n ∧ firstByte n < 256) ∨
      (followers m = followers n ∧ m / 64 ^ followers m = n / 64 ^ followers m) := by
  unfold firstByte followers
  split_ifs
  all_goals
    simp only [leastFirst, Nat.reducePow, Nat.div_one, true_and]
    omega

/-! ## Characters and texts -/

theorem toNat_lt (c : Char) : c.toNat < 0x110000 := by
  have valid : c.toNat.isValidChar := c.valid
  unfold Nat.isValidChar at valid
  omega

/-- A character is its first byte and the following ones. -/
theorem utf8EncodeChar_eq (c : Char) : String.utf8EncodeChar c =
    UInt8.ofNat (firstByte c.toNat) :: following (followers c.toNat) c.toNat := by
  have parted : String.utf8EncodeChar c =
      if c.toNat ≤ 0x7f then [UInt8.ofNat c.toNat]
      else if c.toNat ≤ 0x7ff then UInt8.ofNat (c.toNat / 64 % 32 + 0xc0) :: following 1 c.toNat
      else if c.toNat ≤ 0xffff then
        UInt8.ofNat (c.toNat / 4096 % 16 + 0xe0) :: following 2 c.toNat
      else UInt8.ofNat (c.toNat / 262144 % 8 + 0xf0) :: following 3 c.toNat := by
    simp only [following, Nat.reducePow, Nat.div_one]
    rfl
  have bound := toNat_lt c
  rw [parted]
  unfold firstByte followers
  split_ifs
  · rw [leastFirst, following, Nat.pow_zero, Nat.div_one, Nat.zero_add]
  -- No first byte has room for more bits than its character has.
  all_goals
    simp only [leastFirst, Nat.reducePow]
    congr 2
    omega

/-- **The bytes of characters are in their order**, whatever stands behind them. -/
theorem encoded_lt {c d : Char} (less : c < d) (xs ys : List UInt8) :
    String.utf8EncodeChar c ++ xs < String.utf8EncodeChar d ++ ys := by
  have less : c.toNat < d.toNat := less
  rw [utf8EncodeChar_eq, utf8EncodeChar_eq, List.cons_append, List.cons_append,
    List.cons_lt_cons_iff]
  rcases firstByte_lt_or_same less (toNat_lt d) with ⟨decided, bound⟩ | ⟨alike, same⟩
  · exact .inl (byte_lt decided bound)
  · refine .inr ⟨by rw [firstByte, firstByte, ← alike, same], ?_⟩
    rw [← alike]
    exact following_lt same less xs ys

theorem bytes_eq (s : String) : bytes s = s.toList.flatMap String.utf8EncodeChar := by
  rw [bytes, ← String.utf8Encode_toList, List.utf8Encode, List.data_toByteArray]

theorem flatMap_encoded_lt : {cs ds : List Char} → cs < ds →
    cs.flatMap String.utf8EncodeChar < ds.flatMap String.utf8EncodeChar
  | _, [], less => absurd less (List.not_lt_nil _)
  | [], d :: ds, _ => by
    rw [List.flatMap_nil, List.flatMap_cons, utf8EncodeChar_eq, List.cons_append]
    exact List.nil_lt_cons _ _
  | c :: cs, d :: ds, less => by
    rw [List.flatMap_cons, List.flatMap_cons]
    rcases List.cons_lt_cons_iff.1 less with decided | ⟨rfl, rest⟩
    · exact encoded_lt decided _ _
    · exact List.append_left_lt (flatMap_encoded_lt rest)

/-- **Texts in order have bytes in order.** -/
theorem bytes_lt {s t : String} (less : s < t) : bytes s < bytes t := by
  rw [bytes_eq, bytes_eq]
  exact flatMap_encoded_lt less

/-- Four bytes come behind three. -/
example : bytes "\uffff" = [0xef, 0xbf, 0xbf] ∧ bytes "😀" = [0xf0, 0x9f, 0x98, 0x80] := by decide

end DeployConfig.Text
