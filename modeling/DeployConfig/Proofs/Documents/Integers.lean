/-
  Integers in maps of texts.

  A block of scalars is taken as a map from names to texts: the environment, labels, options and the
  like.  An integer of a YAML document gets there as a value and then as a text.

  1. **Scalars**: the entry of a scalar that no later entry replaces is bound to the text of its
     value, whatever scalars stand around it (`Tree.stringMap_get?`).
  2. **Integers** of 64 bits with a sign are bound to their own digits.  Those above turn into
     floating-point numbers, and the text is that of another integer unless they are multiples of
     one hundred (`Tree.stringMap_integer`).
-/
import DeployConfig.Binding.Field
import DeployConfig.Proofs.Documents.Conversion
import DeployConfig.Proofs.Number.Whole
import DeployConfig.Proofs.Properties.Layers
import Mathlib.Algebra.Group.Int.Defs

namespace DeployConfig.Yaml

/-! ## Blocks of scalars -/

/-- An entry of a mapping that is a block of scalars: the key is a scalar, and the value is a scalar
    or null, with or without tags. -/
def ScalarEntry (entry : Tree × Tree) : Prop :=
  entry.1.isScalar = true ∧ (entry.2.untagged = .null ∨ entry.2.untagged.isScalar = true)

/-- The name and the text that an assignment of a scalar adds to a map. -/
def entryText? (entry : String × Value) : Option (String × String) :=
  entry.2.scalarText?.map fun text => (entry.1, text)

/-- A block of which every assignment has a text is taken as a map. -/
theorem stringMap_block (kind name : String) {block : Block} {texts : List (String × String)}
    (written : block.mapM entryText? = some texts) :
    Field.stringMap ⟨kind, name, .block block⟩ = .ok (.ofList texts) := by
  have all : (block.mapM fun entry => entry.2.scalarText?.map fun text => (entry.1, text)) =
      some texts := written
  simp only [Field.stringMap, all]

/-- A tree says what it says without the tags in front of it. -/
theorem Tree.said_of_untagged : ∀ (tree : Tree) {value : Value}, tree.untagged.Says value →
    tree.Says value
  | .tagged _ inner, _, said => .tagged (inner.said_of_untagged said)
  | .null, _, said | .boolean _, _, said | .integer _, _, said | .float _, _, said
  | .string _, _, said | .sequence _, _, said | .mapping _, _, said => said

/-- The value of an integer has a text. -/
theorem exists_text_integerValue (n : Int) : ∃ text, (integerValue n).scalarText? = some text := by
  rcases integerValue_cases n with ⟨m, same⟩ | ⟨x, same⟩
  · rw [same]
    exact ⟨_, rfl⟩
  · rw [same]
    exact ⟨_, rfl⟩

/-- A scalar says a value that has a text. -/
theorem Tree.exists_scalarText {tree : Tree} (scalar : tree.untagged.isScalar = true) :
    ∃ value text, tree.Says value ∧ value.scalarText? = some text := by
  have bare : ∃ value text, tree.untagged.Says value ∧ value.scalarText? = some text := by
    cases top : tree.untagged with
    | boolean truth => exact ⟨_, _, .boolean truth, rfl⟩
    | integer number =>
      obtain ⟨text, written⟩ := exists_text_integerValue number
      exact ⟨_, text, .integer number, written⟩
    | float number => exact ⟨_, _, .float number, rfl⟩
    | string text => exact ⟨_, _, .string text, rfl⟩
    | null | sequence _ | mapping _ | tagged _ _ =>
      rw [top] at scalar
      cases scalar
  obtain ⟨value, text, said, written⟩ := bare
  exact ⟨value, text, tree.said_of_untagged said, written⟩

/-- Entries one after the other say their blocks one after the other. -/
theorem EntriesSay.append : ∀ {front back : List (Tree × Tree)} {first second : Block},
    EntriesSay front first → EntriesSay back second → EntriesSay (front ++ back) (first ++ second)
  | _, _, _, _, .nil, rest => rest
  | _, _, _, _, .null scalar absent front, rest => .null scalar absent (front.append rest)
  | _, _, _, _, .cons named said front, rest => .cons named said (front.append rest)

/-- A block of scalars adds texts to a map, each of them for an entry that is not null. -/
theorem exists_texts {entries : List (Tree × Tree)}
    (scalars : ∀ entry ∈ entries, ScalarEntry entry) :
    ∃ block texts, EntriesSay entries block ∧ block.mapM entryText? = some texts ∧
      ∀ text ∈ texts, ∃ entry ∈ entries, entry.1.keyText? = some text.1 ∧
        entry.2.untagged ≠ .null := by
  induction entries with
  | nil => exact ⟨[], [], .nil, rfl, by simp⟩
  | cons entry rest ih =>
    obtain ⟨key, item⟩ := entry
    obtain ⟨⟨scalar, value⟩, others⟩ := List.forall_mem_cons.1 scalars
    obtain ⟨block, texts, said, written, source⟩ := ih others
    have later : ∀ text ∈ texts, ∃ entry ∈ (key, item) :: rest, entry.1.keyText? = some text.1 ∧
        entry.2.untagged ≠ .null := by
      intro text mem
      obtain ⟨entry, inRest, found⟩ := source text mem
      exact ⟨entry, List.mem_cons_of_mem _ inRest, found⟩
    rcases value with null | value
    · exact ⟨block, texts, .null scalar null said, written, later⟩
    · obtain ⟨name, named⟩ := Tree.isScalar_iff.1 scalar
      obtain ⟨v, text, saidHere, writtenHere⟩ := Tree.exists_scalarText value
      refine ⟨(name, v) :: block, (name, text) :: texts, .cons named saidHere said, ?_, ?_⟩
      · rw [List.mapM_cons, entryText?, writtenHere, written]
        rfl
      · refine List.forall_mem_cons.2 ⟨⟨(key, item), List.mem_cons_self, named, ?_⟩, later⟩
        intro null
        rw [null] at value
        cases value

/-- **A scalar is bound to the text of its value**, unless an entry behind it has the same name and
    is not null. -/
theorem Tree.stringMap_get? (kind name : String) {before after : List (Tree × Tree)} {key item : Tree}
    {k text : String} {value : Value}
    (scalars : ∀ entry ∈ before ++ (key, item) :: after, ScalarEntry entry)
    (named : key.keyText? = some k) (said : item.Says value)
    (written : value.scalarText? = some text)
    (last : ∀ entry ∈ after, entry.1.keyText? = some k → entry.2.untagged = .null) :
    ∃ block texts,
      (Tree.mapping (before ++ (key, item) :: after)).toValue = .ok (some (.block block)) ∧
      Field.stringMap ⟨kind, name, .block block⟩ = .ok texts ∧ texts.get? k = some text := by
  obtain ⟨front, others⟩ := List.forall_mem_append.1 scalars
  obtain ⟨-, back⟩ := List.forall_mem_cons.1 others
  obtain ⟨first, firstTexts, saidFirst, writtenFirst, -⟩ := exists_texts front
  obtain ⟨second, secondTexts, saidSecond, writtenSecond, source⟩ := exists_texts back
  have all : EntriesSay (before ++ (key, item) :: after) (first ++ (k, value) :: second) :=
    saidFirst.append (.cons named said saidSecond)
  have texts : (first ++ (k, value) :: second).mapM entryText? =
      some (firstTexts ++ (k, text) :: secondTexts) := by
    have here : ((k, value) :: second).mapM entryText? = some ((k, text) :: secondTexts) := by
      rw [List.mapM_cons, entryText?, written, writtenSecond]
      rfl
    rw [List.mapM_append, writtenFirst, here]
    rfl
  have absent : ∀ entry ∈ secondTexts, entry.1 ≠ k := by
    intro entry mem same
    obtain ⟨behind, inAfter, hasName, notNull⟩ := source entry mem
    rw [same] at hasName
    exact notNull (last behind inAfter hasName)
  refine ⟨_, .ofList (firstTexts ++ (k, text) :: secondTexts), (Says.mapping all).toValue, ?_, ?_⟩
  · exact stringMap_block kind name texts
  · rw [OrderedMap.get?_ofList_append, OrderedMap.get?_ofList_cons,
      OrderedMap.get?_ofList_of_absent absent, if_pos rfl]
    rfl

/-! ## Integers -/

/-- An integer of 64 bits has its own digits as its text. -/
theorem scalarText?_integerValue_of_lt {n : Int} (low : -2 ^ 63 ≤ n) (high : n < 2 ^ 63) :
    (integerValue n).scalarText? = some (Text.decimal n) := by
  have kept : (Int64.ofInt n).toInt = n :=
    FixedWidth.toInt_ofInt (α := Int64) n low (Int.le_of_lt_add_one high)
  rw [integerValue, if_pos (by omega)]
  show some (Text.decimal (Int64.ofInt n).toInt) = _
  rw [kept]

/-- A larger one has the text of a floating-point number. -/
theorem scalarText?_integerValue_of_le {n : Int} (large : 2 ^ 63 ≤ n) :
    (integerValue n).scalarText? = some (Binary64.ofNat n.toNat).text := by
  rw [integerValue, if_neg (by omega)]
  rfl

/-- **What an integer is bound to in a map of texts.**  The document is always taken, and an integer
    of 64 bits with a sign is bound to its own digits.  A larger one is rounded to a multiple of 2048
    that is at most 1024 away and is bound to the shortest text of that, which is not its own unless
    it is a multiple of one hundred. -/
theorem Tree.stringMap_integer (kind name : String) {before after : List (Tree × Tree)}
    {key item : Tree} {k : String} {n : Int}
    (scalars : ∀ entry ∈ before ++ (key, item) :: after, ScalarEntry entry)
    (named : key.keyText? = some k) (integer : item.untagged = .integer n)
    (last : ∀ entry ∈ after, entry.1.keyText? = some k → entry.2.untagged = .null)
    (low : -2 ^ 63 ≤ n) (high : n < 2 ^ 64) :
    ∃ block texts,
      (Tree.mapping (before ++ (key, item) :: after)).toValue = .ok (some (.block block)) ∧
      Field.stringMap ⟨kind, name, .block block⟩ = .ok texts ∧
      (n < 2 ^ 63 → texts.get? k = some (Text.decimal n)) ∧
      (2 ^ 63 ≤ n → texts.get? k = some (Binary64.ofNat n.toNat).text ∧
        (∃ mantissa exponent : Nat, Binary64.ofNat n.toNat = .finite false mantissa exponent ∧
          11 ≤ exponent ∧ (mantissa * 2 ^ exponent : Nat) ≤ n + 1024 ∧
          n ≤ (mantissa * 2 ^ exponent : Nat) + 1024) ∧
        (texts.get? k = some (Text.decimal n) → 100 ∣ n)) := by
  obtain ⟨text, written⟩ := exists_text_integerValue n
  have said : item.Says (integerValue n) := item.said_of_untagged (integer ▸ .integer n)
  obtain ⟨block, texts, read, taken, bound⟩ :=
    stringMap_get? kind name scalars named said written last
  refine ⟨block, texts, read, taken, fun small => ?_, fun large => ?_⟩
  · rw [scalarText?_integerValue_of_lt low small] at written
    rw [bound, ← written]
  · rw [scalarText?_integerValue_of_le large] at written
    have low' : 2 ^ 63 ≤ n.toNat := by omega
    have high' : n.toNat < 2 ^ 64 := by omega
    have whole : (n.toNat : Int) = n := Int.toNat_of_nonneg (by omega)
    refine ⟨by rw [bound, ← written], ?_, fun kept => ?_⟩
    · obtain ⟨mantissa, exponent, rounded, shift, -, above, below⟩ :=
        Binary64.ofNat_eq_finite low' high'
      refine ⟨mantissa, exponent, rounded, shift, ?_, ?_⟩
      · omega
      · omega
    · have same : (Binary64.ofNat n.toNat).text = Text.decimal (n.toNat : Int) := by
        rw [bound, ← written] at kept
        rw [whole]
        exact Option.some.inj kept
      have hundreds := Binary64.dvd_of_text_ofNat low' high' same
      omega

/-- The greatest integer of 64 bits without a sign, among labels and under a tag: it is rounded up to
    a power of two, and its text ends with zeros. -/
theorem Tree.stringMap_integer_greatest :
    let before : List (Tree × Tree) := [(.string "gone", .null), (.string "1", .string "one")]
    let item : Tree := .tagged ['!', 'a'] (.integer 18446744073709551615)
    (∀ entry ∈ before ++ [(.integer 1, item)], ScalarEntry entry) ∧
    item.untagged = .integer 18446744073709551615 ∧
    ∃ block texts, (Tree.mapping (before ++ [(.integer 1, item)])).toValue = .ok (some (.block block)) ∧
      Field.stringMap ⟨"image", "labels", .block block⟩ = .ok texts ∧
      texts.get? "1" = some "18446744073709552000" := by
  intro before item
  have scalars : ∀ entry ∈ before ++ [(.integer 1, item)], ScalarEntry entry := by
    intro entry mem
    simp only [before, List.cons_append, List.nil_append, List.mem_cons, List.not_mem_nil,
      or_false] at mem
    rcases mem with rfl | rfl | rfl
    · exact ⟨rfl, .inl rfl⟩
    · exact ⟨rfl, .inr rfl⟩
    · exact ⟨rfl, .inr rfl⟩
  have name : (Tree.integer 1).keyText? = some "1" := by decide +kernel
  have text : (Binary64.ofNat 18446744073709551615).text = "18446744073709552000" := by
    decide +kernel
  obtain ⟨block, texts, read, taken, -, large⟩ :=
    stringMap_integer "image" "labels" scalars name rfl (by simp) (by decide) (by decide)
  obtain ⟨bound, -, -⟩ := large (by decide)
  exact ⟨scalars, rfl, block, texts, read, taken, bound.trans (congrArg some text)⟩

/-- **An integer above the 64-bit range is bound to other digits than its own**, silently: read from a
    document, the greatest one without a sign is changed. -/
theorem unsigned_integer_changed :
    ((DocumentFormat.yaml.read "BIG: 18446744073709551615\n").toOption.bind fun block =>
      (Field.stringMap ⟨"resources", "env", .block block⟩).toOption.bind fun texts =>
        texts.get? "BIG") = some "18446744073709552000" ∧
    ¬ ∀ (kind name k : String) (n : Int), -2 ^ 63 ≤ n → n < 2 ^ 64 →
      ∃ block texts, (Tree.mapping [(.string k, .integer n)]).toValue = .ok (some (.block block)) ∧
        Field.stringMap ⟨kind, name, .block block⟩ = .ok texts ∧
        texts.get? k = some (Text.decimal n) := by
  refine ⟨by decide +kernel, fun kept => ?_⟩
  obtain ⟨block, texts, read, taken, bound⟩ :=
    kept "resources" "env" "BIG" 18446744073709551615 (by decide) (by decide)
  have value : block = [("BIG", .float (Binary64.ofNat 18446744073709551615))] := by
    cases read
    rfl
  subst value
  cases taken
  have other : (Binary64.ofNat 18446744073709551615).text ≠ Text.decimal 18446744073709551615 := by
    decide +kernel
  exact other (Option.some.inj bound)

end DeployConfig.Yaml
