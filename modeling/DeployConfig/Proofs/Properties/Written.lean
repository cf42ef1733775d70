/-
  Written entries.

  A writer of properties has many ways to put down a character, and a reader takes all of them back.
  `Writes` says which characters a text writes, without a word about how the text is read.

  1. **The crux** is that the reader's four passes part a text at the same places: the line goes on
     or not, the key ends, a separator is passed over and escapes are decoded, each looking at
     backslashes in its own way.  None of them cuts through a written piece.
  2. **Texts**: lines that write entries are read as these entries (`parse_of_writesEntry`).
-/
import Mathlib.Data.List.Forall2
import DeployConfig.Properties.Text

namespace DeployConfig.Properties

open DeployConfig.Text

/-! ## Written characters -/

/-- A character that has a meaning of its own in a text. -/
def isSign (c : Char) : Bool := c == '\\' || isAssign c || c == '#' || c == '!'

/-- A character that may stand for itself in a value. -/
def isPlain (c : Char) : Bool := c != '\\' && c != '\n' && c != '\r'

/-- A character that may stand for itself in a key, at its start as well. -/
def isPlainInKey (c : Char) : Bool := !isSign c && !isBlank c

/-- The letter that stands for a control character behind a backslash. -/
def letter? : Char → Option Char
  | '\t' => some 't'
  | '\n' => some 'n'
  | '\r' => some 'r'
  | '\x0c' => some 'f'
  | _ => none

/-- The characters that a text writes, piece by piece, where some characters may stand for
    themselves. -/
inductive Writes (plain : Char → Bool) : List Char → List Char → Prop where
  | nil : Writes plain [] []
  /-- A character stands for itself. -/
  | itself {c : Char} {cs text : List Char} (stands : plain c = true)
      (rest : Writes plain cs text) : Writes plain (c :: cs) (c :: text)
  /-- A backslash stands in front of a character. -/
  | escape {c : Char} {cs text : List Char} (unnumbered : c ≠ 'u') (inLine : c ≠ '\n' ∧ c ≠ '\r')
      (rest : Writes plain cs text) : Writes plain (decodeEscape c :: cs) ('\\' :: c :: text)
  /-- Four digits stand behind a backslash and a letter. -/
  | number {digits cs text : List Char} (four : digits.length = 4)
      (stand : ∀ d ∈ digits, plain d = true) (rest : Writes plain cs text) :
      Writes plain (decodeUnicode digits ++ cs) ('\\' :: 'u' :: (digits ++ text))

theorem ne_backslash_of_isPlain {c : Char} (h : isPlain c = true) : c ≠ '\\' := by
  rintro rfl
  exact absurd h (by decide)

theorem isPlain_of_isPlainInKey {c : Char} (h : isPlainInKey c = true) : isPlain c = true := by
  have other {d : Char} (refused : isPlainInKey d = false) : c ≠ d := by
    rintro rfl
    rw [refused] at h
    cases h
  have backslash : c ≠ '\\' := other (by decide)
  have feed : c ≠ '\n' := other (by decide)
  have carriage : c ≠ '\r' := other (by decide)
  simp [isPlain, backslash, feed, carriage]

/-- White space that separates a key from its value is white space. -/
theorem isBlank_of_isGap {c : Char} (h : isGap c = true) : isBlank c = true := by
  simp only [isGap, Bool.or_eq_true, beq_iff_eq] at h
  rcases h with (rfl | rfl) | rfl <;> decide

/-- What stands for itself in a key is no white space, and it ends no key. -/
theorem not_of_isPlainInKey {c : Char} (h : isPlainInKey c = true) :
    isBlank c = false ∧ isGap c = false ∧ isAssign c = false ∧ c ≠ '#' ∧ c ≠ '!' := by
  simp only [isPlainInKey, isSign, Bool.and_eq_true, Bool.not_eq_true', Bool.or_eq_false_iff,
    beq_eq_false_iff_ne] at h
  obtain ⟨⟨⟨⟨-, assign⟩, hash⟩, mark⟩, blank⟩ := h
  refine ⟨blank, Bool.eq_false_iff.2 fun gap => ?_, assign, hash, mark⟩
  rw [isBlank_of_isGap gap] at blank
  cases blank

/-- A letter stands for its control character. -/
theorem of_letter? {c letter : Char} (h : letter? c = some letter) :
    decodeEscape letter = c ∧ letter ≠ 'u' ∧ letter ≠ '\n' ∧ letter ≠ '\r' := by
  rw [letter?.eq_def] at h
  split at h <;> cases h <;> decide

namespace Writes

variable {plain : Char → Bool} {cs ds text more : List Char}

/-- More characters may stand for themselves in a value than in a key. -/
theorem inValue (written : Writes isPlainInKey cs text) : Writes isPlain cs text := by
  induction written with
  | nil => exact .nil
  | itself stands _ ih => exact .itself (isPlain_of_isPlainInKey stands) ih
  | escape unnumbered inLine _ ih => exact .escape unnumbered inLine ih
  | number four stand _ ih =>
    exact .number four (fun d member => isPlain_of_isPlainInKey (stand d member)) ih

theorem append (written : Writes plain cs text) (further : Writes plain ds more) :
    Writes plain (cs ++ ds) (text ++ more) := by
  induction written with
  | nil => exact further
  | itself stands _ ih => exact .itself stands ih
  | escape unnumbered inLine _ ih => exact .escape unnumbered inLine ih
  | number four stand _ ih =>
    rw [List.append_assoc, List.cons_append, List.cons_append, List.append_assoc]
    exact .number four stand ih

/-- Characters may be written one by one. -/
theorem flatMap {α : Type} {meaning write : α → List Char}
    (each : ∀ a, Writes plain (meaning a) (write a)) (parts : List α) :
    Writes plain (parts.flatMap meaning) (parts.flatMap write) := by
  induction parts with
  | nil => exact .nil
  | cons a rest ih =>
    rw [List.flatMap_cons, List.flatMap_cons]
    exact (each a).append ih

/-- What may stand in a key begins with no white space and with no mark of a comment. -/
theorem of_mem_head? (written : Writes isPlainInKey cs text) {c : Char} (first : c ∈ text.head?) :
    isBlank c = false ∧ isGap c = false ∧ c ≠ '#' ∧ c ≠ '!' := by
  cases written with
  | nil => cases first
  | itself stands _ =>
    cases first
    obtain ⟨blank, gap, -, marks⟩ := not_of_isPlainInKey stands
    exact ⟨blank, gap, marks⟩
  | escape => cases first; decide
  | number => cases first; decide

theorem ne_nil (written : Writes plain cs text) (nonempty : cs ≠ []) : text ≠ [] := by
  cases written with
  | nil => exact nonempty
  | itself | escape | number => exact List.cons_ne_nil _ _

/-- A letter behind a backslash writes its control character. -/
theorem letter {c letter : Char} (h : letter? c = some letter) :
    Writes plain [c] ['\\', letter] := by
  obtain ⟨meaning, unnumbered, inLine⟩ := of_letter? h
  rw [← meaning]
  exact .escape unnumbered inLine .nil

/-- A backslash in front of a sign or of white space takes nothing but its meaning. -/
theorem quoted {c : Char} (noLetter : letter? c = none) (h : isSign c = true ∨ isBlank c = true) :
    Writes plain [c] ['\\', c] := by
  -- The letters of escapes may stand in a key, so none of them is a sign or white space.
  have other {d : Char} (plain : isPlainInKey d = true) : c ≠ d := by
    rintro rfl
    simp only [isPlainInKey, Bool.and_eq_true, Bool.not_eq_true'] at plain
    simp [plain] at h
  have itself : decodeEscape c = c := by
    simp [decodeEscape, other (d := 't') (by decide), other (d := 'n') (by decide),
      other (d := 'r') (by decide), other (d := 'f') (by decide)]
  have feed : c ≠ '\n' := by
    rintro rfl
    exact absurd noLetter (by decide)
  have carriage : c ≠ '\r' := by
    rintro rfl
    exact absurd noLetter (by decide)
  have written : Writes plain [decodeEscape c] ['\\', c] :=
    .escape (other (by decide)) ⟨feed, carriage⟩ .nil
  rwa [itself] at written

end Writes

/-! ## Where lines end -/

/-- Backslashes at the end of a line count, and what stands before another character does not. -/
theorem continues_append (first line : List Char)
    (even : (first.reverse.takeWhile (· == '\\')).length % 2 = 0) :
    continues (first ++ line) = continues line := by
  rw [continues, continues, List.reverse_append, List.takeWhile_append]
  -- The count reaches into the first part only if all the rest is backslashes.
  split
  · rename_i all
    have parity : (line.reverse ++ first.reverse.takeWhile (· == '\\')).length % 2 =
        (line.reverse.takeWhile (· == '\\')).length % 2 := by
      rw [List.length_append, all]
      omega
    rw [parity]
  · rfl

/-- A character that stands for itself does not count. -/
theorem continues_cons {c : Char} (h : c ≠ '\\') (line : List Char) :
    continues (c :: line) = continues line :=
  continues_append [c] line (by simp [h])

/-- An escaped character does not count with its backslash, be it a backslash or not. -/
theorem continues_escape (c : Char) (line : List Char) :
    continues ('\\' :: c :: line) = continues line := by
  refine continues_append ['\\', c] line ?_
  by_cases backslash : c = '\\' <;> simp [backslash]

/-- Characters that all stand for themselves do not count. -/
theorem continues_plain {digits : List Char} (h : ∀ d ∈ digits, isPlain d = true)
    (line : List Char) : continues (digits ++ line) = continues line := by
  induction digits with
  | nil => rfl
  | cons d rest ih =>
    obtain ⟨here, later⟩ := List.forall_mem_cons.1 h
    rw [List.cons_append, continues_cons (ne_backslash_of_isPlain here), ih later]

namespace Writes

variable {cs text : List Char}

/-- A line goes on behind a written text as it does without it. -/
theorem continues_append (written : Writes isPlain cs text) (line : List Char) :
    continues (text ++ line) = continues line := by
  induction written with
  | nil => rfl
  | itself stands _ ih => rw [List.cons_append, continues_cons (ne_backslash_of_isPlain stands), ih]
  | escape _ _ _ ih => rw [List.cons_append, List.cons_append, continues_escape, ih]
  | number _ stand _ ih =>
    rw [List.cons_append, List.cons_append, continues_escape, List.append_assoc,
      continues_plain stand, ih]

/-- Written text stays on its line. -/
theorem not_mem_of_lineEnd (written : Writes isPlain cs text) : '\n' ∉ text ∧ '\r' ∉ text := by
  have other {c : Char} (stands : isPlain c = true) : '\n' ≠ c ∧ '\r' ≠ c := by
    constructor <;> rintro rfl <;> exact absurd stands (by decide)
  induction written with
  | nil => exact ⟨List.not_mem_nil, List.not_mem_nil⟩
  | itself stands _ ih =>
    simp only [List.mem_cons, not_or]
    exact ⟨⟨(other stands).1, ih.1⟩, (other stands).2, ih.2⟩
  | escape _ inLine _ ih =>
    simp only [List.mem_cons, not_or]
    exact ⟨⟨by decide, Ne.symm inLine.1, ih.1⟩, by decide, Ne.symm inLine.2, ih.2⟩
  | number _ stand _ ih =>
    simp only [List.mem_cons, List.mem_append, not_or]
    exact ⟨⟨by decide, by decide, fun member => (other (stand _ member)).1 rfl, ih.1⟩,
      by decide, by decide, fun member => (other (stand _ member)).2 rfl, ih.2⟩

end Writes

/-! ## Where keys end -/

/-- A character that stands for itself in a key belongs to the key. -/
theorem splitKey_cons {c : Char} (h : isPlainInKey c = true) (rest : List Char) :
    splitKey (c :: rest) = (c :: (splitKey rest).1, (splitKey rest).2) := by
  have plain : c ≠ '\\' := ne_backslash_of_isPlain (isPlain_of_isPlainInKey h)
  obtain ⟨-, gap, assign, -⟩ := not_of_isPlainInKey h
  rw [splitKey, gap, assign, Bool.or_false, if_neg Bool.false_ne_true]
  · exact fun backslash _ => plain backslash
  · exact fun _ _ backslash _ => plain backslash

theorem splitKey_plain {digits : List Char} (h : ∀ d ∈ digits, isPlainInKey d = true)
    (rest : List Char) :
    splitKey (digits ++ rest) = (digits ++ (splitKey rest).1, (splitKey rest).2) := by
  induction digits with
  | nil => rfl
  | cons d digits ih =>
    obtain ⟨here, later⟩ := List.forall_mem_cons.1 h
    rw [List.cons_append, splitKey_cons here, ih later]
    rfl

/-- An assigning character ends a key. -/
theorem splitKey_assign {c : Char} (h : isAssign c = true) (rest : List Char) :
    splitKey (c :: rest) = ([], c :: rest) := by
  have plain : c ≠ '\\' := by
    rintro rfl
    exact absurd h (by decide)
  rw [splitKey, h, Bool.or_true, if_pos rfl]
  · exact fun backslash _ => plain backslash
  · exact fun _ _ backslash _ => plain backslash

/-- A key is split off behind all that it writes. -/
theorem Writes.splitKey_append {cs text : List Char} (written : Writes isPlainInKey cs text)
    (rest : List Char) :
    splitKey (text ++ rest) = (text ++ (splitKey rest).1, (splitKey rest).2) := by
  induction written with
  | nil => rfl
  | itself stands _ ih =>
    rw [List.cons_append, splitKey_cons stands, ih]
    rfl
  | escape _ _ _ ih =>
    rw [List.cons_append, List.cons_append, splitKey, ih]
    rfl
  | number _ stand _ ih =>
    rw [List.cons_append, List.cons_append, splitKey, List.append_assoc, splitKey_plain stand, ih,
      ← List.append_assoc]
    rfl

/-! ## What escapes stand for -/

theorem unescape_cons {c : Char} (h : c ≠ '\\') (rest : List Char) :
    unescape (c :: rest) = c :: unescape rest := by
  rw [unescape]
  · exact fun backslash _ => h backslash
  · exact fun _ backslash _ => h backslash
  · exact fun _ _ backslash _ => h backslash

theorem unescape_escape {c : Char} (h : c ≠ 'u') (rest : List Char) :
    unescape ('\\' :: c :: rest) = decodeEscape c :: unescape rest := by
  rw [unescape]
  exact h

/-- **Text is decoded to the characters that it writes.** -/
theorem Writes.unescape_eq {cs text : List Char} (written : Writes isPlain cs text) :
    unescape text = cs := by
  induction written with
  | nil => rw [unescape]
  | itself stands _ ih => rw [unescape_cons (ne_backslash_of_isPlain stands), ih]
  | escape unnumbered _ _ ih => rw [unescape_escape unnumbered, ih]
  | number four _ _ ih => rw [unescape, List.take_left' four, List.drop_left' four, ih]

/-! ## Written entries -/

/-- The entries that a line writes: a key in front of an equals sign, and a value that begins with
    no white space behind it. -/
inductive WritesEntry : String × String → List Char → Prop where
  | intro {key value : String} {k v : List Char} (writesKey : Writes isPlainInKey key.toList k)
      (writesValue : Writes isPlain value.toList v) (bare : ∀ c ∈ v.head?, isGap c = false) :
      WritesEntry (key, value) (k ++ '=' :: v)

namespace WritesEntry

variable {pair : String × String} {line : List Char}

/-- A line begins with no white space and with no mark of a comment, even if the key is empty. -/
theorem starts (written : WritesEntry pair line) :
    ∃ c rest, line = c :: rest ∧ isBlank c = false ∧ c ≠ '#' ∧ c ≠ '!' := by
  obtain @⟨key, value, k, v, writesKey, -, -⟩ := written
  cases k with
  | nil => exact ⟨'=', v, rfl, by decide⟩
  | cons c rest =>
    obtain ⟨blank, -, marks⟩ := writesKey.of_mem_head? (c := c) rfl
    exact ⟨c, rest ++ '=' :: v, rfl, blank, marks⟩

/-- A written entry is one physical line, and all of a logical one. -/
theorem inLine (written : WritesEntry pair line) : '\n' ∉ line ∧ '\r' ∉ line := by
  obtain @⟨key, value, k, v, writesKey, writesValue, -⟩ := written
  have inKey := writesKey.inValue.not_mem_of_lineEnd
  have inValue := writesValue.not_mem_of_lineEnd
  simp only [List.mem_append, List.mem_cons, not_or]
  exact ⟨⟨inKey.1, by decide, inValue.1⟩, inKey.2, by decide, inValue.2⟩

theorem not_continues (written : WritesEntry pair line) : continues line = false := by
  obtain @⟨key, value, k, v, writesKey, writesValue, -⟩ := written
  have ends := writesValue.continues_append []
  rw [List.append_nil] at ends
  rw [writesKey.inValue.continues_append, continues_cons (by decide), ends]
  rfl

/-- **A line is read as the entry that it writes.** -/
theorem entry_eq (written : WritesEntry pair line) : entry line = pair := by
  obtain @⟨key, value, k, v, writesKey, writesValue, bare⟩ := written
  -- No piece of a key ends it, so the key ends at the equals sign.
  have parted : splitKey (k ++ '=' :: v) = (k, '=' :: v) := by
    rw [writesKey.splitKey_append, splitKey_assign (by decide), List.append_nil]
  -- Behind the sign, nothing is passed over.
  have bared : v.dropWhile isGap = v := by
    cases v with
    | nil => rfl
    | cons c rest => rw [List.dropWhile_cons_of_neg]; simp [bare c rfl]
  have behind : valuePart ('=' :: v) = v := by
    rw [valuePart, List.dropWhile_cons_of_neg (by decide)]
    exact bared
  rw [entry, parted]
  show (String.ofList (unescape k), String.ofList (unescape (valuePart ('=' :: v)))) = _
  rw [behind, writesKey.inValue.unescape_eq, writesValue.unescape_eq, String.ofList_toList,
    String.ofList_toList]

/-- Lines that write entries are logical lines each. -/
theorem logicalLines_eq {pairs : List (String × String)} {ls : List (List Char)}
    (written : List.Forall₂ WritesEntry pairs ls) : logicalLines none ls = ls := by
  induction written with
  | nil => rfl
  | @cons pair line pairs ls here _ ih =>
    obtain ⟨c, rest, rfl, blank, hash, mark⟩ := here.starts
    have kept : trimStart (c :: rest) = c :: rest := trimStart_cons_of_not_blank blank
    have entered : isSkipped (c :: rest) = false := by simp [isSkipped, hash, mark]
    rw [logicalLines, kept, entered, Bool.and_false, if_neg Bool.false_ne_true]
    show (if continues (c :: rest) then _ else _) = _
    rw [here.not_continues, if_neg Bool.false_ne_true, ih]
    rfl

end WritesEntry

/-- **Lines are read as the entries that they write**, however a text parts them. -/
theorem parse_of_writesEntry {pairs : List (String × String)} {ls : List (List Char)}
    {text : String} (written : List.Forall₂ WritesEntry pairs ls)
    (parted : lines text.toList = ls) : parse text = pairs := by
  rw [parse, parted, WritesEntry.logicalLines_eq written]
  clear parted
  induction written with
  | nil => rfl
  | cons here _ ih => rw [List.map_cons, here.entry_eq, ih]

end DeployConfig.Properties
