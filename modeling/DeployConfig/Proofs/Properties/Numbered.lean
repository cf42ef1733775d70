/-
  Numbered escapes.

  An escape such as `\u0041` gives the number of a character by four hexadecimal digits.  `Decodes`
  says what a text with escapes stands for, once it is known which characters behind `\u` are taken
  for a number; all others stay, behind a letter `u`.

  1. **What a reader takes** is more than an escape may be: fewer digits than four where the text
     ends, and a plus sign in place of the first digit (`decodeUnicode_of_taken`).
  2. **Texts**: so a reader decodes what it takes and nothing else, and decodes only well-formed
     escapes exactly in those texts where it meets neither of the two (`numbered_escapes`).
-/
import DeployConfig.Proofs.Properties.Written
import DeployConfig.Proofs.Text.Integer

namespace DeployConfig.Properties

open DeployConfig.Text

/-! ## Hexadecimal numbers -/

/-- The value of a hexadecimal digit, letters of either case. -/
def hexValue (d : Char) : Nat := "0123456789abcdef".toList.idxOf d.toLower

/-- The number that hexadecimal digits write, read on from another one. -/
def hexNumber (acc : Nat) (digits : List Char) : Nat :=
  digits.foldl (fun n d => n * 16 + hexValue d) acc

/-- Hexadecimal digits, at least one, write the number of a character. -/
def Names (digits : List Char) (c : Char) : Prop :=
  digits ≠ [] ∧ (∀ d ∈ digits, d.isHexDigit = true) ∧ hexNumber 0 digits = c.toNat

instance (digits : List Char) (c : Char) : Decidable (Names digits c) :=
  decidable_of_iff
    (digits ≠ [] ∧ digits.all Char.isHexDigit = true ∧ hexNumber 0 digits = c.toNat)
    (by rw [Names, List.all_eq_true])

theorem digitValue?_sixteen (c : Char) :
    digitValue? 16 c = if c.isHexDigit then some (hexValue c) else none := by
  rcases Nat.lt_or_ge c.toNat 128 with small | large
  · have all : ∀ n < 128, digitValue? 16 (Char.ofNat n) =
        if (Char.ofNat n).isHexDigit then some (hexValue (Char.ofNat n)) else none := by decide
    have here := all c.toNat small
    rwa [Char.ofNat_toNat] at here
  · -- Beyond ASCII there is no digit.
    have noDigit : c.isHexDigit = false := by
      have bound {a b : Char} (h : b.toNat < 128) :
          (decide (c.val ≥ a.val) && decide (c.val ≤ b.val)) = false := by
        rw [Bool.and_eq_false_iff, decide_eq_false_iff_not, decide_eq_false_iff_not]
        refine .inr fun below => ?_
        have : c.toNat ≤ b.toNat := UInt32.le_iff_toNat_le.1 below
        omega
      rw [Char.isHexDigit, Char.isDigit]
      rw [bound (a := 'a') (b := 'f') (by decide), bound (a := 'A') (b := 'F') (by decide),
        bound (a := '0') (b := '9') (by decide)]
      rfl
    have noValue : digitValue? 16 c = none := by
      simp only [digitValue?, Bool.and_eq_true, decide_eq_true_eq]
      rw [if_neg (by omega), if_neg (by omega), if_neg (by omega), Option.bind_none]
    rw [noDigit, noValue]
    rfl

theorem natAfter?_sixteen {acc n : Nat} {digits : List Char} :
    natAfter? 16 acc digits = some n ↔
      (∀ d ∈ digits, d.isHexDigit = true) ∧ hexNumber acc digits = n := by
  induction digits generalizing acc with
  | nil => simp [natAfter?, hexNumber]
  | cons d rest ih =>
    rw [natAfter?, digitValue?_sixteen, List.forall_mem_cons, hexNumber, List.foldl_cons]
    by_cases h : d.isHexDigit = true
    · rw [if_pos h, Option.bind_some, ih]
      simp only [h, true_and]
      rfl
    · simp only [h, Bool.false_eq_true, if_false, Option.bind_none, reduceCtorEq, false_and]

theorem nat?_sixteen {n : Nat} {digits : List Char} :
    nat? 16 digits = some n ↔
      digits ≠ [] ∧ (∀ d ∈ digits, d.isHexDigit = true) ∧ hexNumber 0 digits = n := by
  cases digits with
  | nil => simp [nat?]
  | cons d rest =>
    rw [nat?, natAfter?_sixteen]
    · simp
    · simp

/-! ## What is taken for a number -/

/-- Four hexadecimal digits name a character. -/
def WellFormed (digits : List Char) (c : Char) : Prop := digits.length = 4 ∧ Names digits c

/-- The characters that a reader takes for the number of a character: digits, or digits behind a
    plus sign. -/
inductive Taken : List Char → Char → Prop where
  | digits {digits : List Char} {c : Char} (names : Names digits c) : Taken digits c
  | plus {digits : List Char} {c : Char} (names : Names digits c) : Taken ('+' :: digits) c

/-- A plus sign is no digit. -/
theorem not_mem_of_names {digits : List Char} {c : Char} (names : Names digits c) :
    '+' ∉ digits :=
  fun member => absurd (names.2.1 '+' member) (by decide)

/-- Well-formed is what is taken, has four characters and no sign among them. -/
theorem wellFormed_iff {digits : List Char} {c : Char} :
    WellFormed digits c ↔ Taken digits c ∧ digits.length = 4 ∧ '+' ∉ digits := by
  constructor
  · rintro ⟨four, names⟩
    exact ⟨.digits names, four, not_mem_of_names names⟩
  · rintro ⟨taken, four, unsigned⟩
    cases taken with
    | digits names => exact ⟨four, names⟩
    | plus => exact absurd List.mem_cons_self unsigned

theorem charOfNat?_eq_some_iff {n : Nat} {c : Char} : charOfNat? n = some c ↔ n = c.toNat := by
  rw [charOfNat?]
  constructor
  · intro found
    split at found
    · rename_i valid
      rw [← Option.some.inj found, Char.ofNat, dif_pos valid]
      rfl
    · cases found
  · rintro rfl
    rw [if_pos (show c.toNat.isValidChar from c.valid), Char.ofNat_toNat]

theorem codePoint?_bind_eq_some_iff {digits : List Char} {c : Char} :
    (codePoint? digits).bind charOfNat? = some c ↔ Taken digits c := by
  have read {ds : List Char} : (nat? 16 ds).bind charOfNat? = some c ↔ Names ds c := by
    simp only [Option.bind_eq_some_iff, charOfNat?_eq_some_iff, nat?_sixteen, Names]
    constructor
    · rintro ⟨n, ⟨written, all, value⟩, number⟩
      exact ⟨written, all, value.trans number⟩
    · rintro ⟨written, all, value⟩
      exact ⟨_, ⟨written, all, rfl⟩, value⟩
  rw [codePoint?.eq_def]
  split
  · rename_i ds
    rw [read]
    constructor
    · exact .plus
    · intro taken
      cases taken with
      | digits names => exact absurd List.mem_cons_self (not_mem_of_names names)
      | plus names => exact names
  · rename_i unsigned
    rw [read]
    constructor
    · exact .digits
    · intro taken
      cases taken with
      | digits names => exact names
      | plus => exact absurd rfl (unsigned _)

/-- **What is taken for a number is decoded**, and all else stays behind the letter. -/
theorem decodeUnicode_of_taken {digits : List Char} {c : Char} (taken : Taken digits c) :
    decodeUnicode digits = [c] := by
  rw [decodeUnicode, codePoint?_bind_eq_some_iff.2 taken]

theorem decodeUnicode_of_not_taken {digits : List Char} (none : ∀ c, ¬Taken digits c) :
    decodeUnicode digits = 'u' :: digits := by
  rw [decodeUnicode]
  cases found : (codePoint? digits).bind charOfNat? with
  | some c => exact absurd (codePoint?_bind_eq_some_iff.1 found) (none c)
  | none => rfl

theorem Taken.ne_nil {digits : List Char} {c : Char} (taken : Taken digits c) : digits ≠ [] := by
  cases taken with
  | digits names => exact names.1
  | plus => exact List.cons_ne_nil _ _

/-! ## Texts with escapes -/

/-- What a text with escapes stands for, where `accepts` says which characters behind `\u`, four of
    them unless the text ends, give the number of which character. -/
inductive Decodes (accepts : List Char → Char → Prop) : List Char → List Char → Prop where
  | nil : Decodes accepts [] []
  /-- A backslash that nothing follows is left out. -/
  | lone : Decodes accepts ['\\'] []
  | itself {c : Char} {text out : List Char} (plain : c ≠ '\\') (rest : Decodes accepts text out) :
      Decodes accepts (c :: text) (c :: out)
  | letter {c : Char} {text out : List Char} (unnumbered : c ≠ 'u')
      (rest : Decodes accepts text out) :
      Decodes accepts ('\\' :: c :: text) (decodeEscape c :: out)
  /-- An escape is replaced by the character that it names. -/
  | number {c : Char} {text out : List Char} (accepted : accepts (text.take 4) c)
      (rest : Decodes accepts (text.drop 4) out) :
      Decodes accepts ('\\' :: 'u' :: text) (c :: out)
  /-- Otherwise the letter stays and so do the characters behind it. -/
  | refused {text out : List Char} (none : ∀ c, ¬accepts (text.take 4) c)
      (rest : Decodes accepts (text.drop 4) out) :
      Decodes accepts ('\\' :: 'u' :: text) ('u' :: (text.take 4 ++ out))

/-- The characters behind a `\u` in a text, four of them unless the text ends. -/
inductive Numbered : List Char → List Char → Prop where
  | here (text : List Char) : Numbered ('\\' :: 'u' :: text) (text.take 4)
  | behind {text digits : List Char} (later : Numbered (text.drop 4) digits) :
      Numbered ('\\' :: 'u' :: text) digits
  | letter {c : Char} {text digits : List Char} (unnumbered : c ≠ 'u')
      (later : Numbered text digits) : Numbered ('\\' :: c :: text) digits
  | itself {c : Char} {text digits : List Char} (plain : c ≠ '\\') (later : Numbered text digits) :
      Numbered (c :: text) digits

/-- All that a reader takes for a number in a text has four characters and no sign. -/
def Strict (text : List Char) : Prop :=
  ∀ digits, Numbered text digits → ∀ c, Taken digits c → digits.length = 4 ∧ '+' ∉ digits

theorem strict_nil : Strict [] := fun _ place => by cases place

theorem strict_lone : Strict ['\\'] := fun _ place => by
  cases place with
  | itself plain => exact absurd rfl plain

theorem strict_itself {c : Char} (plain : c ≠ '\\') {text : List Char} :
    Strict (c :: text) ↔ Strict text := by
  refine ⟨fun strict digits place => strict digits (.itself plain place), fun strict _ place => ?_⟩
  cases place with
  | here | behind | letter => exact absurd rfl plain
  | itself _ later => exact strict _ later

theorem strict_letter {c : Char} (unnumbered : c ≠ 'u') {text : List Char} :
    Strict ('\\' :: c :: text) ↔ Strict text := by
  refine ⟨fun strict digits place => strict digits (.letter unnumbered place),
    fun strict _ place => ?_⟩
  cases place with
  | here | behind => exact absurd rfl unnumbered
  | letter _ later => exact strict _ later
  | itself plain => exact absurd rfl plain

theorem strict_number {text : List Char} : Strict ('\\' :: 'u' :: text) ↔
    (∀ c, Taken (text.take 4) c → (text.take 4).length = 4 ∧ '+' ∉ text.take 4) ∧
      Strict (text.drop 4) := by
  refine ⟨fun strict => ⟨strict _ (.here text), fun digits place => strict digits (.behind place)⟩,
    fun ⟨first, strict⟩ _ place => ?_⟩
  cases place with
  | here => exact first
  | behind later => exact strict _ later
  | letter unnumbered => exact absurd rfl unnumbered
  | itself plain => exact absurd rfl plain

/-- Every text stands for something. -/
theorem exists_decodes (accepts : List Char → Char → Prop) (text : List Char) :
    ∃ out, Decodes accepts text out := by
  induction text using unescape.induct with
  | case1 => exact ⟨[], .nil⟩
  | case2 => exact ⟨[], .lone⟩
  | case3 text ih =>
    obtain ⟨out, rest⟩ := ih
    by_cases accepted : ∃ c, accepts (text.take 4) c
    · obtain ⟨c, accepted⟩ := accepted
      exact ⟨_, .number accepted rest⟩
    · exact ⟨_, .refused (not_exists.1 accepted) rest⟩
  | case4 c text unnumbered ih =>
    obtain ⟨out, rest⟩ := ih
    exact ⟨_, .letter unnumbered rest⟩
  | case5 c text noEnd _ noEscape ih =>
    obtain ⟨out, rest⟩ := ih
    have plain : c ≠ '\\' := by
      rintro rfl
      cases text with
      | nil => exact noEnd rfl rfl
      | cons d text => exact noEscape d text rfl rfl
    exact ⟨_, .itself plain rest⟩

namespace Decodes

variable {accepts : List Char → Char → Prop} {text out : List Char}

/-- What a text stands for depends on what is accepted of the characters behind each `\u` only. -/
theorem congr {others : List Char → Char → Prop} (decodes : Decodes accepts text out)
    (same : ∀ digits, Numbered text digits → ∀ c, accepts digits c ↔ others digits c) :
    Decodes others text out := by
  induction decodes with
  | nil => exact .nil
  | lone => exact .lone
  | itself plain _ ih => exact .itself plain (ih fun ds place => same ds (.itself plain place))
  | letter unnumbered _ ih =>
    exact .letter unnumbered (ih fun ds place => same ds (.letter unnumbered place))
  | number accepted _ ih =>
    exact .number ((same _ (.here _) _).1 accepted) (ih fun ds place => same ds (.behind place))
  | refused none _ ih =>
    refine .refused (fun c accepted => none c ((same _ (.here _) c).2 accepted)) ?_
    exact ih fun ds place => same ds (.behind place)

/-- A reader decodes what it takes. -/
theorem eq_unescape (decodes : Decodes Taken text out) : out = unescape text := by
  induction decodes with
  | nil => rw [unescape]
  | lone => rw [unescape]
  | itself plain _ ih => rw [unescape_cons plain, ih]
  | letter unnumbered _ ih => rw [unescape_escape unnumbered, ih]
  | number taken _ ih => rw [unescape, decodeUnicode_of_taken taken, ih]; rfl
  | refused none _ ih => rw [unescape, decodeUnicode_of_not_taken none, ih]; rfl

end Decodes

theorem decodes_taken_iff {text out : List Char} : Decodes Taken text out ↔ out = unescape text := by
  refine ⟨Decodes.eq_unescape, ?_⟩
  rintro rfl
  obtain ⟨out, decodes⟩ := exists_decodes Taken text
  rwa [← decodes.eq_unescape]

/-- What is read of a text is shorter than what its well-formed escapes stand for, unless nothing but
    these is taken. -/
theorem Decodes.shorter_or_strict {text out : List Char} (decodes : Decodes WellFormed text out) :
    (unescape text).length < out.length ∨
      (unescape text).length = out.length ∧ Strict text := by
  induction decodes with
  | nil => exact .inr ⟨by rw [unescape], strict_nil⟩
  | lone => exact .inr ⟨by rw [unescape], strict_lone⟩
  | itself plain _ ih =>
    rw [unescape_cons plain, List.length_cons, List.length_cons]
    rcases ih with shorter | ⟨same, strict⟩
    · exact .inl (by omega)
    · exact .inr ⟨by omega, (strict_itself plain).2 strict⟩
  | letter unnumbered _ ih =>
    rw [unescape_escape unnumbered, List.length_cons, List.length_cons]
    rcases ih with shorter | ⟨same, strict⟩
    · exact .inl (by omega)
    · exact .inr ⟨by omega, (strict_letter unnumbered).2 strict⟩
  | number wellFormed _ ih =>
    obtain ⟨taken, formed⟩ := wellFormed_iff.1 wellFormed
    rw [unescape, decodeUnicode_of_taken taken, List.singleton_append, List.length_cons,
      List.length_cons]
    rcases ih with shorter | ⟨same, strict⟩
    · exact .inl (by omega)
    · exact .inr ⟨by omega, strict_number.2 ⟨fun _ _ => formed, strict⟩⟩
  | @refused text out _ _ ih =>
    by_cases taken : ∃ c, Taken (text.take 4) c
    · -- One character is read for all those that stay.
      obtain ⟨c, taken⟩ := taken
      have written := List.length_pos_iff.2 taken.ne_nil
      rw [unescape, decodeUnicode_of_taken taken, List.singleton_append, List.length_cons,
        List.length_cons, List.length_append]
      exact .inl (by rcases ih with shorter | ⟨same, -⟩ <;> omega)
    · have none := not_exists.1 taken
      rw [unescape, decodeUnicode_of_not_taken none, List.cons_append, List.length_cons,
        List.length_cons, List.length_append, List.length_append]
      rcases ih with shorter | ⟨same, strict⟩
      · exact .inl (by omega)
      · exact .inr ⟨by omega, strict_number.2 ⟨fun c taken => absurd taken (none c), strict⟩⟩

/-- **Only well-formed escapes are decoded exactly if nothing else is taken.** -/
theorem decodes_wellFormed_iff {text : List Char} :
    Decodes WellFormed text (unescape text) ↔ Strict text := by
  constructor
  · intro decodes
    rcases decodes.shorter_or_strict with shorter | ⟨-, strict⟩
    · exact absurd shorter (Nat.lt_irrefl _)
    · exact strict
  · intro strict
    refine (decodes_taken_iff.2 rfl).congr fun digits place c => ?_
    rw [wellFormed_iff]
    exact ⟨fun taken => ⟨taken, strict digits place c taken⟩, And.left⟩

/-! ## Entries -/

/-- What is read of a raw text, all that a reader takes being decoded, and when that is just what
    its well-formed escapes stand for. -/
structure Unescaped (raw read : List Char) : Prop where
  decodes : ∀ out, Decodes Taken raw out ↔ out = read
  wellFormed : Decodes WellFormed raw read ↔ Strict raw

theorem unescaped (raw : List Char) : Unescaped raw (unescape raw) where
  decodes _ := decodes_taken_iff
  wellFormed := decodes_wellFormed_iff

/-- **What the escapes of an entry are read as.**  In keys and in values, characters behind `\u` are
    decoded exactly if they are hexadecimal digits, at least one and at most four with a plus sign
    that may stand before them, and give the number of a character.  So nothing but well-formed
    escapes is decoded exactly if each of those taken has four characters and no sign. -/
theorem numbered_escapes (line : List Char) :
    Unescaped (splitKey line).1 (entry line).1.toList ∧
      Unescaped (valuePart (splitKey line).2) (entry line).2.toList := by
  have key : (entry line).1.toList = unescape (splitKey line).1 := String.toList_ofList
  have value : (entry line).2.toList = unescape (valuePart (splitKey line).2) :=
    String.toList_ofList
  rw [key, value]
  exact ⟨unescaped _, unescaped _⟩

/-- A sign in place of a digit, and digits that are too few, are decoded all the same. -/
theorem malformed_escapes_decoded :
    (parse "a=\\u+041" = [("a", "A")] ∧ ¬Decodes WellFormed "\\u+041".toList "A".toList) ∧
      parse "a=\\u41" = [("a", "A")] ∧ ¬Decodes WellFormed "\\u41".toList "A".toList := by
  have signed : Taken "+041".toList 'A' := .plus (show Names "041".toList 'A' by decide)
  have short : Taken "41".toList 'A' := .digits (by decide)
  have read {digits : List Char} (taken : Taken digits 'A') (few : digits.length ≤ 4) :
      unescape ('\\' :: 'u' :: digits) = ['A'] := by
    rw [unescape, List.take_of_length_le few, List.drop_of_length_le few,
      decodeUnicode_of_taken taken, unescape]
    rfl
  have entered {text : String} {digits : List Char} (taken : Taken digits 'A')
      (few : digits.length ≤ 4)
      (line : logicalLines none (lines text.toList) = ['a' :: '=' :: '\\' :: 'u' :: digits]) :
      parse text = [("a", "A")] := by
    have key : unescape ['a'] = ['a'] := by rw [unescape_cons (by decide), unescape]
    rw [parse, line]
    show [(String.ofList (unescape ['a']), String.ofList (unescape ('\\' :: 'u' :: digits)))] = _
    rw [key, read taken few]
  have refused {digits : List Char} (taken : Taken digits 'A') (few : digits.length ≤ 4)
      (lax : ¬(digits.length = 4 ∧ '+' ∉ digits)) :
      ¬Decodes WellFormed ('\\' :: 'u' :: digits) ['A'] := by
    rw [← read taken few, decodes_wellFormed_iff]
    intro strict
    have place := Numbered.here digits
    rw [List.take_of_length_le few] at place
    exact lax (strict digits place 'A' taken)
  exact ⟨⟨entered signed (by decide) (by decide), refused signed (by decide) (by decide)⟩,
    entered short (by decide) (by decide), refused short (by decide) (by decide)⟩

end DeployConfig.Properties
