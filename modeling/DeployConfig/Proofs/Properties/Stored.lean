/-
  Entries stored in printable characters.

  A store of properties writes every character outside of printable ASCII by its 16-bit units, each
  behind a `\u` of its own, and the spaces of a value, its first one apart, as they are.  A reader
  takes every unit for a character.  So entries are read back exactly as far as each of their
  characters is one unit, and a character that is a pair of units comes back as the digits of both
  (`parse_storedText`, `stored_read_back`).
-/
import DeployConfig.Proofs.Properties.Written

namespace DeployConfig.Properties

open DeployConfig.Text

/-! ## Storing -/

/-- The 16-bit units of a character: one, or the two of a pair. -/
def units (c : Char) : List Nat :=
  if c.toNat < 0x10000 then [c.toNat]
  else [0xD800 + (c.toNat - 0x10000) / 0x400, 0xDC00 + (c.toNat - 0x10000) % 0x400]

/-- The character of a digit below sixteen, letters in upper case. -/
def hexDigit (d : Nat) : Char := if d < 10 then Char.ofNat (0x30 + d) else Char.ofNat (0x37 + d)

/-- The four digits of a unit. -/
def unitDigits (n : Nat) : List Char :=
  [hexDigit (n / 0x1000 % 16), hexDigit (n / 0x100 % 16), hexDigit (n / 0x10 % 16),
    hexDigit (n % 16)]

/-- A character stored: a letter stands for tab, line feed, carriage return and form feed, a
    backslash stands in front of signs and, where they count, of spaces, and what is not printable
    is written by its units. -/
def storeChar (spacesCount : Bool) (c : Char) : List Char :=
  match letter? c with
  | some letter => ['\\', letter]
  | none =>
    if isSign c || (spacesCount && c == ' ') then ['\\', c]
    else if 0x20 ≤ c.toNat && c.toNat ≤ 0x7E then [c]
    else (units c).flatMap fun n => '\\' :: 'u' :: unitDigits n

/-- A key stored: each of its spaces counts. -/
def storeKey (text : String) : List Char := text.toList.flatMap (storeChar true)

/-- A value stored: a space counts where it comes first. -/
def storeValue (text : String) : List Char :=
  match text.toList with
  | [] => []
  | c :: rest => storeChar true c ++ rest.flatMap (storeChar false)

/-- The line of an entry. -/
def storedLine (pair : String × String) : List Char := storeKey pair.1 ++ '=' :: storeValue pair.2

/-- The text of entries, each of which is a line. -/
def storedText (pairs : List (String × String)) : String :=
  String.ofList ((pairs.map storedLine).flatMap (· ++ ['\n']))

/-- What is read of a stored character: of a pair of units, the digits of both. -/
def readBackChar (c : Char) : List Char :=
  if c.toNat < 0x10000 then [c] else (units c).flatMap fun n => 'u' :: unitDigits n

/-- What is read of a stored text. -/
def readBack (text : String) : String := String.ofList (text.toList.flatMap readBackChar)

/-! ## Units -/

theorem digitValue?_hexDigit {d : Nat} (h : d < 16) :
    digitValue? 16 (hexDigit d) = some d ∧ hexDigit d ≠ '+' ∧ isPlainInKey (hexDigit d) = true := by
  have all : ∀ d < 16, digitValue? 16 (hexDigit d) = some d ∧ hexDigit d ≠ '+' ∧
      isPlainInKey (hexDigit d) = true := by decide
  exact all d h

theorem isPlainInKey_of_mem_unitDigits {n : Nat} {d : Char} (member : d ∈ unitDigits n) :
    isPlainInKey d = true := by
  have digit (m : Nat) : isPlainInKey (hexDigit (m % 16)) = true :=
    (digitValue?_hexDigit (Nat.mod_lt m (by decide))).2.2
  simp only [unitDigits, List.mem_cons, List.not_mem_nil, or_false] at member
  rcases member with rfl | rfl | rfl | rfl <;> exact digit _

/-- The digits of a unit write its number. -/
theorem codePoint?_unitDigits {n : Nat} (h : n < 0x10000) : codePoint? (unitDigits n) = some n := by
  have value (m : Nat) : digitValue? 16 (hexDigit (m % 16)) = some (m % 16) :=
    (digitValue?_hexDigit (Nat.mod_lt m (by decide))).1
  have unsigned : hexDigit (n / 0x1000 % 16) ≠ '+' :=
    (digitValue?_hexDigit (Nat.mod_lt _ (by decide))).2.1
  rw [unitDigits, codePoint?, nat?]
  · simp only [natAfter?, value, Option.bind_some]
    congr 1
    omega
  · exact List.cons_ne_nil _ _
  · exact fun _ same => unsigned (List.cons.inj same).1

/-- A unit stands for the character of its number, and half of a pair for its digits. -/
theorem decodeUnicode_unitDigits {n : Nat} (h : n < 0x10000) :
    decodeUnicode (unitDigits n) =
      if n.isValidChar then [Char.ofNat n] else 'u' :: unitDigits n := by
  rw [decodeUnicode, codePoint?_unitDigits h, Option.bind_some, charOfNat?]
  by_cases valid : n.isValidChar <;> simp [valid]

/-- Something is read of every stored character, and more than one character of a pair. -/
theorem one_le_length_readBackChar (c : Char) :
    1 ≤ (readBackChar c).length ∧ ((readBackChar c).length = 1 → c.toNat < 0x10000) := by
  rw [readBackChar]
  split
  · rename_i single
    exact ⟨Nat.le_refl 1, fun _ => single⟩
  · rename_i pair
    rw [units, if_neg pair]
    exact ⟨by simp, by simp [unitDigits]⟩

/-- What is read of a stored character is what its units stand for. -/
theorem readBackChar_eq (c : Char) :
    readBackChar c = (units c).flatMap fun n => decodeUnicode (unitDigits n) := by
  have valid : c.toNat < 0xD800 ∨ 0xDFFF < c.toNat ∧ c.toNat < 0x110000 := c.valid
  rw [readBackChar, units]
  split
  · rename_i single
    rw [List.flatMap_singleton, decodeUnicode_unitDigits single,
      if_pos (show c.toNat.isValidChar from valid), Char.ofNat_toNat]
  · rename_i pair
    -- The numbers of both halves lie in the gap of numbers without a character.
    have high : ¬(0xD800 + (c.toNat - 0x10000) / 0x400).isValidChar := by
      simp only [Nat.isValidChar]
      omega
    have low : ¬(0xDC00 + (c.toNat - 0x10000) % 0x400).isValidChar := by
      simp only [Nat.isValidChar]
      omega
    simp only [List.flatMap_cons, List.flatMap_nil]
    rw [decodeUnicode_unitDigits (by omega), if_neg high, decodeUnicode_unitDigits (by omega),
      if_neg low]

/-! ## Stored entries are written entries -/

theorem writes_units {plain : Char → Bool} (stand : ∀ d, isPlainInKey d = true → plain d = true)
    (c : Char) :
    Writes plain (readBackChar c) ((units c).flatMap fun n => '\\' :: 'u' :: unitDigits n) := by
  rw [readBackChar_eq]
  refine Writes.flatMap (fun n => ?_) (units c)
  have written : Writes plain (decodeUnicode (unitDigits n) ++ [])
      ('\\' :: 'u' :: (unitDigits n ++ [])) :=
    .number rfl (fun d member => stand d (isPlainInKey_of_mem_unitDigits member)) .nil
  rwa [List.append_nil, List.append_nil] at written

/-- Printable characters that are no signs may stand in a key, a space apart. -/
theorem isPlainInKey_of_printable {c : Char} (noSign : isSign c = false) (noSpace : c ≠ ' ')
    (printable : 0x20 ≤ c.toNat ∧ c.toNat ≤ 0x7E) : isPlainInKey c = true := by
  have above : c.toNat ≠ 0x20 := fun same => noSpace (Char.ext (UInt32.toNat_inj.1 same))
  have noBlank : isBlank c = false := by
    simp only [isBlank, Bool.or_eq_false_iff, Bool.and_eq_false_iff, decide_eq_false_iff_not,
      beq_eq_false_iff_ne]
    omega
  rw [isPlainInKey, noSign, noBlank]
  rfl

/-- A stored character writes what is read back of it, where all that may stand in a key stands for
    itself, and so do spaces that do not count. -/
theorem writes_storeChar {plain : Char → Bool} {spacesCount : Bool}
    (stand : ∀ d, isPlainInKey d = true → plain d = true)
    (space : spacesCount = false → plain ' ' = true) (c : Char) :
    Writes plain (readBackChar c) (storeChar spacesCount c) := by
  rw [storeChar]
  cases special : letter? c with
  | some letter =>
    have single : readBackChar c = [c] := by
      rw [letter?.eq_def] at special
      split at special <;> cases special <;> decide
    rw [single]
    exact .letter special
  | none =>
    show Writes plain _ (if isSign c || (spacesCount && c == ' ') then _ else _)
    split
    · rename_i marked
      have sign : isSign c = true ∨ c = ' ' := by
        rw [Bool.or_eq_true, Bool.and_eq_true, beq_iff_eq] at marked
        exact marked.imp_right And.right
      have single : readBackChar c = [c] := by
        simp only [isSign, isAssign, Bool.or_eq_true, beq_iff_eq] at sign
        rcases sign with (((rfl | rfl | rfl) | rfl) | rfl) | rfl <;> decide
      rw [single]
      exact .quoted special (sign.imp_right fun same => by rw [same]; rfl)
    · rename_i unmarked
      split
      · rename_i printable
        simp only [Bool.or_eq_true, Bool.and_eq_true, beq_iff_eq, not_or, not_and,
          Bool.not_eq_true, decide_eq_true_eq] at unmarked printable
        have single : readBackChar c = [c] := by rw [readBackChar, if_pos (by omega)]
        rw [single]
        refine .itself ?_ .nil
        by_cases same : c = ' '
        · rw [same]
          exact space (Bool.eq_false_iff.2 fun counts => unmarked.2 counts same)
        · exact stand c (isPlainInKey_of_printable unmarked.1 same printable)
      · exact writes_units stand c

theorem writes_storeKey (text : String) :
    Writes isPlainInKey (readBack text).toList (storeKey text) := by
  rw [readBack, String.toList_ofList]
  exact Writes.flatMap (writes_storeChar (fun _ plain => plain) (by decide)) text.toList

/-- A stored value writes what is read back of it, and begins with no white space. -/
theorem writes_storeValue (text : String) :
    Writes isPlain (readBack text).toList (storeValue text) ∧
      ∀ c ∈ (storeValue text).head?, isGap c = false := by
  rw [readBack, String.toList_ofList, storeValue]
  cases text.toList with
  | nil => exact ⟨.nil, fun _ none => by cases none⟩
  | cons c rest =>
    have first : Writes isPlainInKey (readBackChar c) (storeChar true c) :=
      writes_storeChar (fun _ plain => plain) (by decide) c
    have others : Writes isPlain (rest.flatMap readBackChar) (rest.flatMap (storeChar false)) :=
      Writes.flatMap (writes_storeChar (fun _ => isPlain_of_isPlainInKey) (fun _ => rfl)) rest
    -- The first character is stored as in a key, where no piece begins with white space.
    refine ⟨first.inValue.append others, fun d begins => ?_⟩
    have nonempty : storeChar true c ≠ [] := first.ne_nil
      (List.ne_nil_of_length_pos (one_le_length_readBackChar c).1)
    rw [List.head?_append_of_ne_nil _ nonempty] at begins
    exact (first.of_mem_head? begins).2.1

/-- What is read of a stored entry. -/
def readBackEntry (pair : String × String) : String × String := (readBack pair.1, readBack pair.2)

theorem writesEntry_storedLine (pair : String × String) :
    WritesEntry (readBackEntry pair) (storedLine pair) :=
  .intro (writes_storeKey pair.1) (writes_storeValue pair.2).1 (writes_storeValue pair.2).2

/-- **Stored entries are read in their order**, and each as its units are read one by one. -/
theorem parse_storedText (pairs : List (String × String)) :
    parse (storedText pairs) = pairs.map readBackEntry := by
  have written : List.Forall₂ WritesEntry (pairs.map readBackEntry) (pairs.map storedLine) := by
    rw [List.forall₂_map_left_iff, List.forall₂_map_right_iff, List.forall₂_same]
    exact fun pair _ => writesEntry_storedLine pair
  refine parse_of_writesEntry written ?_
  rw [storedText, String.toList_ofList]
  refine lines_ended fun line member => ?_
  obtain ⟨pair, -, rfl⟩ := List.mem_map.1 member
  exact (writesEntry_storedLine pair).inLine

/-! ## What is read back as it was -/

theorem length_le_flatMap_readBackChar (cs : List Char) :
    cs.length ≤ (cs.flatMap readBackChar).length := by
  induction cs with
  | nil => exact Nat.le_refl 0
  | cons c rest ih =>
    have first := (one_le_length_readBackChar c).1
    rw [List.flatMap_cons, List.length_append, List.length_cons]
    omega

/-- Characters are read back as they were exactly if each of them is one unit. -/
theorem flatMap_readBackChar_eq_iff (cs : List Char) :
    cs.flatMap readBackChar = cs ↔ ∀ c ∈ cs, c.toNat < 0x10000 := by
  induction cs with
  | nil => simp
  | cons c rest ih =>
    rw [List.flatMap_cons, List.forall_mem_cons, ← ih]
    constructor
    · intro same
      -- The digits of a pair would make the text longer, for the rest of it is not shorter.
      have longer := length_le_flatMap_readBackChar rest
      have lengths := congrArg List.length same
      rw [List.length_append, List.length_cons] at lengths
      have first := (one_le_length_readBackChar c).1
      have single : c.toNat < 0x10000 := (one_le_length_readBackChar c).2 (by omega)
      rw [readBackChar, if_pos single] at same
      exact ⟨single, (List.cons.inj same).2⟩
    · rintro ⟨single, later⟩
      rw [later, readBackChar, if_pos single]
      rfl

theorem readBack_eq_iff (text : String) :
    readBack text = text ↔ ∀ c ∈ text.toList, c.toNat < 0x10000 := by
  rw [← flatMap_readBackChar_eq_iff, readBack]
  constructor
  · intro same
    rw [← String.toList_ofList (l := text.toList.flatMap readBackChar), same]
  · intro same
    rw [same, String.ofList_toList]

/-- **What a reader makes of stored entries.**

    * They are read in their order, each character that is a pair of units as the digits of both.
    * So they are read back as they were exactly if each of their characters is one unit. -/
theorem stored_read_back (pairs : List (String × String)) :
    parse (storedText pairs) = pairs.map readBackEntry ∧
      (parse (storedText pairs) = pairs ↔
        ∀ pair ∈ pairs, ∀ c ∈ pair.1.toList ++ pair.2.toList, c.toNat < 0x10000) := by
  refine ⟨parse_storedText pairs, ?_⟩
  have each : pairs.map readBackEntry = pairs ↔ ∀ pair ∈ pairs, readBackEntry pair = pair := by
    have itself := List.map_inj_left (f := readBackEntry) (g := id) (l := pairs)
    rwa [List.map_id] at itself
  rw [parse_storedText, each]
  refine forall₂_congr fun pair _ => ?_
  rw [List.forall_mem_append, ← readBack_eq_iff, ← readBack_eq_iff]
  exact Prod.ext_iff

/-- A pair of units is not read back as the character that it stands for. -/
theorem pair_of_units_not_read_back :
    ¬∀ pairs : List (String × String), parse (storedText pairs) = pairs := by
  intro all
  have read := all [("a", "😀")]
  rw [parse_storedText] at read
  exact absurd read (by decide)

end DeployConfig.Properties
