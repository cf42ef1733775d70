/-
  What becomes of YAML trees.

  As a block, a tree loses its tags and all that is null, and its keys become texts.

  1. **Keys**: which keys count is said by the places of a tree: values of mappings, items of
     sequences and what is under tags, at any depth (`Tree.Reaches`).  A key that is no scalar is
     found there whatever its own value is (`Tree.toValue_of_not_keysAreScalars`).
  2. **Pruning**: what a tree says is a relation with one rule for each kind of tree, and one for an
     item or an entry that is left out (`Tree.Says`).
  3. **The outcome**: a tree has a key that is no scalar, or is null, or says a value, and which of
     the three decides what is read (`Tree.toBlock_outcome`).
-/
import DeployConfig.Documents.Load

namespace DeployConfig.Yaml

/-! ## Keys -/

/-- Whether a tree is a string, a number or a truth value. -/
def Tree.isScalar : Tree → Bool
  | .string _ | .integer _ | .float _ | .boolean _ => true
  | _ => false

/-- The scalars are the trees that have a text as a key. -/
theorem Tree.isScalar_iff {key : Tree} :
    key.isScalar = true ↔ ∃ name, key.keyText? = some name := by
  cases key <;> simp [isScalar, keyText?]

/-- A tree lies in another one: one goes into the values of mappings, the items of sequences and
    what is under tags, but not into keys. -/
inductive Tree.Reaches : Tree → Tree → Prop where
  | here (tree : Tree) : tree.Reaches tree
  | value {entries : List (Tree × Tree)} {key value inner : Tree} :
      (key, value) ∈ entries → value.Reaches inner → (Tree.mapping entries).Reaches inner
  | item {items : List Tree} {item inner : Tree} :
      item ∈ items → item.Reaches inner → (Tree.sequence items).Reaches inner
  | under {tag : List Char} {value inner : Tree} :
      value.Reaches inner → (Tree.tagged tag value).Reaches inner

/-- All keys of the mappings in a tree are scalars. -/
def Tree.KeysAreScalars (tree : Tree) : Prop :=
  ∀ entries, tree.Reaches (.mapping entries) → ∀ entry ∈ entries, entry.1.isScalar = true

theorem Tree.keysAreScalars_sequence {items : List Tree} :
    (Tree.sequence items).KeysAreScalars ↔ ∀ item ∈ items, item.KeysAreScalars := by
  constructor
  · intro keys item mem entries reached
    exact keys entries (.item mem reached)
  · intro keys entries reached
    cases reached with
    | item mem inside => exact keys _ mem entries inside

theorem Tree.keysAreScalars_mapping {entries : List (Tree × Tree)} :
    (Tree.mapping entries).KeysAreScalars ↔
      ∀ entry ∈ entries, entry.1.isScalar = true ∧ entry.2.KeysAreScalars := by
  constructor
  · intro keys entry mem
    exact ⟨keys entries (.here _) entry mem, fun inner reached => keys inner (.value mem reached)⟩
  · intro keys inner reached
    cases reached with
    | here => exact fun entry mem => (keys entry mem).1
    | value mem inside => exact (keys _ mem).2 inner inside

theorem Tree.keysAreScalars_tagged {tag : List Char} {value : Tree} :
    (Tree.tagged tag value).KeysAreScalars ↔ value.KeysAreScalars := by
  constructor
  · intro keys entries reached
    exact keys entries (.under reached)
  · intro keys entries reached
    cases reached with
    | under inside => exact keys entries inside

/-! ## Pruning -/

/-- A tree without the tags in front of it. -/
def Tree.untagged : Tree → Tree
  | .tagged _ value => value.untagged
  | tree => tree

mutual

/-- What a tree says that is not null. -/
inductive Tree.Says : Tree → Value → Prop where
  | boolean (truth : Bool) : Tree.Says (.boolean truth) (.boolean truth)
  | integer (number : Int) : Tree.Says (.integer number) (integerValue number)
  | float (number : Binary64) : Tree.Says (.float number) (.float number)
  | string (text : String) : Tree.Says (.string text) (.string text)
  | sequence {items : List Tree} {values : List Value} :
      ItemsSay items values → Tree.Says (.sequence items) (.list values)
  | mapping {entries : List (Tree × Tree)} {block : Block} :
      EntriesSay entries block → Tree.Says (.mapping entries) (.block block)
  | tagged {tag : List Char} {tree : Tree} {value : Value} :
      Tree.Says tree value → Tree.Says (.tagged tag tree) value

/-- What the items of a sequence say, without those that are null. -/
inductive ItemsSay : List Tree → List Value → Prop where
  | nil : ItemsSay [] []
  | null {item : Tree} {items : List Tree} {values : List Value} :
      item.untagged = .null → ItemsSay items values → ItemsSay (item :: items) values
  | cons {item : Tree} {items : List Tree} {value : Value} {values : List Value} :
      Tree.Says item value → ItemsSay items values → ItemsSay (item :: items) (value :: values)

/-- What the entries of a mapping say, without those of which the value is null. -/
inductive EntriesSay : List (Tree × Tree) → Block → Prop where
  | nil : EntriesSay [] []
  | null {key item : Tree} {entries : List (Tree × Tree)} {block : Block} :
      key.isScalar = true → item.untagged = .null → EntriesSay entries block →
      EntriesSay ((key, item) :: entries) block
  | cons {key item : Tree} {name : String} {entries : List (Tree × Tree)} {value : Value}
      {block : Block} :
      key.keyText? = some name → Tree.Says item value → EntriesSay entries block →
      EntriesSay ((key, item) :: entries) ((name, value) :: block)

end

/-! ## What is read -/

/-- A tree that is null under its tags is left out. -/
theorem Tree.toValue_of_untagged : ∀ (tree : Tree), tree.untagged = .null → tree.toValue = .ok none
  | .null, _ => by rw [toValue]
  | .tagged _ value, absent => by
    rw [toValue]
    exact toValue_of_untagged value absent

/-- The items of a sequence, one after the other. -/
theorem valuesOf_cons {item : Tree} {items : List Tree} {value : Option Value}
    {values : List Value} (first : item.toValue = .ok value) (rest : valuesOf items = .ok values) :
    valuesOf (item :: items) = .ok (value.toList ++ values) := by
  rw [valuesOf, first, rest]
  rfl

/-- The entries of a mapping, one after the other. -/
theorem blockOf_cons_of_keyText {key item : Tree} {name : String} {entries : List (Tree × Tree)}
    {value : Option Value} {block : Block} (named : key.keyText? = some name)
    (first : item.toValue = .ok value) (rest : blockOf entries = .ok block) :
    blockOf ((key, item) :: entries) = .ok ((value.toList.map fun v => (name, v)) ++ block) := by
  rw [blockOf, named]
  simp only [first, rest]
  rfl

mutual

/-- **A tree is read as what it says.** -/
theorem Tree.Says.toValue : ∀ {tree : Tree} {value : Value}, tree.Says value →
    tree.toValue = .ok (some value)
  | _, _, .boolean truth => by rw [Tree.toValue]
  | _, _, .integer number => by rw [Tree.toValue]
  | _, _, .float number => by rw [Tree.toValue]
  | _, _, .string text => by rw [Tree.toValue]
  | _, _, .sequence items => by
    rw [Tree.toValue, items.valuesOf]
    rfl
  | _, _, .mapping entries => by
    rw [Tree.toValue, entries.blockOf]
    rfl
  | _, _, .tagged said => by
    rw [Tree.toValue]
    exact said.toValue

theorem ItemsSay.valuesOf : ∀ {items : List Tree} {values : List Value}, ItemsSay items values →
    Yaml.valuesOf items = .ok values
  | _, _, .nil => by rw [Yaml.valuesOf]
  | _, _, .null null rest => valuesOf_cons (Tree.toValue_of_untagged _ null) rest.valuesOf
  | _, _, .cons said rest => valuesOf_cons said.toValue rest.valuesOf

theorem EntriesSay.blockOf : ∀ {entries : List (Tree × Tree)} {block : Block},
    EntriesSay entries block → Yaml.blockOf entries = .ok block
  | _, _, .nil => by rw [Yaml.blockOf]
  | _, _, .null scalar null rest => by
    obtain ⟨name, named⟩ := Tree.isScalar_iff.1 scalar
    exact blockOf_cons_of_keyText named (Tree.toValue_of_untagged _ null) rest.blockOf
  | _, _, .cons named said rest => blockOf_cons_of_keyText named said.toValue rest.blockOf

end

mutual

/-- A tree of which all keys are scalars is null or says something. -/
theorem Tree.null_or_said : ∀ (tree : Tree), tree.KeysAreScalars →
    tree.untagged = .null ∨ ∃ value, tree.Says value
  | .null, _ => .inl rfl
  | .boolean truth, _ => .inr ⟨_, .boolean truth⟩
  | .integer number, _ => .inr ⟨_, .integer number⟩
  | .float number, _ => .inr ⟨_, .float number⟩
  | .string text, _ => .inr ⟨_, .string text⟩
  | .sequence items, keys => by
    obtain ⟨values, said⟩ := exists_itemsSay items (Tree.keysAreScalars_sequence.1 keys)
    exact .inr ⟨_, .sequence said⟩
  | .mapping entries, keys => by
    obtain ⟨block, said⟩ := exists_entriesSay entries (Tree.keysAreScalars_mapping.1 keys)
    exact .inr ⟨_, .mapping said⟩
  | .tagged tag value, keys => by
    rcases value.null_or_said (Tree.keysAreScalars_tagged.1 keys) with null | ⟨v, said⟩
    · exact .inl null
    · exact .inr ⟨v, .tagged said⟩

theorem exists_itemsSay : ∀ (items : List Tree), (∀ item ∈ items, item.KeysAreScalars) →
    ∃ values, ItemsSay items values
  | [], _ => ⟨[], .nil⟩
  | item :: items, keys => by
    obtain ⟨first, others⟩ := List.forall_mem_cons.1 keys
    obtain ⟨values, rest⟩ := exists_itemsSay items others
    rcases item.null_or_said first with null | ⟨value, said⟩
    · exact ⟨values, .null null rest⟩
    · exact ⟨value :: values, .cons said rest⟩

theorem exists_entriesSay : ∀ (entries : List (Tree × Tree)),
    (∀ entry ∈ entries, entry.1.isScalar = true ∧ entry.2.KeysAreScalars) →
    ∃ block, EntriesSay entries block
  | [], _ => ⟨[], .nil⟩
  | (key, item) :: entries, keys => by
    obtain ⟨⟨scalar, first⟩, others⟩ := List.forall_mem_cons.1 keys
    obtain ⟨block, rest⟩ := exists_entriesSay entries others
    rcases item.null_or_said first with null | ⟨value, said⟩
    · exact ⟨block, .null scalar null rest⟩
    · obtain ⟨name, named⟩ := Tree.isScalar_iff.1 scalar
      exact ⟨(name, value) :: block, .cons named said rest⟩

end

/-- A tree of which all keys are scalars is read. -/
theorem Tree.exists_toValue {tree : Tree} (keys : tree.KeysAreScalars) :
    ∃ value, tree.toValue = .ok value := by
  rcases tree.null_or_said keys with null | ⟨value, said⟩
  · exact ⟨none, tree.toValue_of_untagged null⟩
  · exact ⟨some value, said.toValue⟩

mutual

/-- **A key that is no scalar is found, however deep it lies and whatever its value is.** -/
theorem Tree.toValue_of_not_keysAreScalars : ∀ (tree : Tree), ¬ tree.KeysAreScalars →
    tree.toValue = .error .keyNotScalar
  | .null, bad | .boolean _, bad | .integer _, bad | .float _, bad | .string _, bad =>
    -- No mapping lies in a scalar or in null.
    absurd (fun _ reached => nomatch reached) bad
  | .sequence items, bad => by
    rw [Tree.keysAreScalars_sequence] at bad
    rw [Tree.toValue, valuesOf_of_bad_key items bad]
    rfl
  | .mapping entries, bad => by
    rw [Tree.keysAreScalars_mapping] at bad
    rw [Tree.toValue, blockOf_of_bad_key entries bad]
    rfl
  | .tagged _ value, bad => by
    rw [Tree.keysAreScalars_tagged] at bad
    rw [Tree.toValue]
    exact value.toValue_of_not_keysAreScalars bad

theorem valuesOf_of_bad_key : ∀ (items : List Tree), ¬ (∀ item ∈ items, item.KeysAreScalars) →
    valuesOf items = .error .keyNotScalar
  | [], bad => absurd (by simp) bad
  | item :: items, bad => by
    rw [valuesOf]
    by_cases first : item.KeysAreScalars
    · have others : ¬ ∀ i ∈ items, i.KeysAreScalars :=
        fun keys => bad (List.forall_mem_cons.2 ⟨first, keys⟩)
      obtain ⟨value, read⟩ := Tree.exists_toValue first
      rw [read, valuesOf_of_bad_key items others]
      rfl
    · rw [item.toValue_of_not_keysAreScalars first]
      rfl

theorem blockOf_of_bad_key : ∀ (entries : List (Tree × Tree)),
    ¬ (∀ entry ∈ entries, entry.1.isScalar = true ∧ entry.2.KeysAreScalars) →
    blockOf entries = .error .keyNotScalar
  | [], bad => absurd (by simp) bad
  | (key, item) :: entries, bad => by
    rw [blockOf]
    cases named : key.keyText? with
    | none => rfl
    | some name =>
      have scalar : key.isScalar = true := Tree.isScalar_iff.2 ⟨name, named⟩
      by_cases first : item.KeysAreScalars
      · have others : ¬ ∀ entry ∈ entries, entry.1.isScalar = true ∧ entry.2.KeysAreScalars :=
          fun keys => bad (List.forall_mem_cons.2 ⟨⟨scalar, first⟩, keys⟩)
        obtain ⟨value, read⟩ := Tree.exists_toValue first
        simp only [read, blockOf_of_bad_key entries others]
        rfl
      · simp only [item.toValue_of_not_keysAreScalars first]
        rfl

end

/-! ## The outcome -/

/-- Reading a tree fails exactly if a key in it is no scalar. -/
theorem Tree.toValue_eq_error_iff {tree : Tree} :
    tree.toValue = .error .keyNotScalar ↔ ¬ tree.KeysAreScalars := by
  constructor
  · intro failed keys
    obtain ⟨value, read⟩ := Tree.exists_toValue keys
    rw [read] at failed
    cases failed
  · exact tree.toValue_of_not_keysAreScalars

/-- A key that is no scalar stands in some mapping of the tree. -/
theorem Tree.not_keysAreScalars_iff {tree : Tree} :
    ¬ tree.KeysAreScalars ↔ ∃ entries key value,
      tree.Reaches (.mapping entries) ∧ (key, value) ∈ entries ∧ key.isScalar = false := by
  simp only [KeysAreScalars, Classical.not_forall, Bool.not_eq_true]
  constructor
  · rintro ⟨entries, reached, ⟨key, value⟩, mem, bad⟩
    exact ⟨entries, key, value, reached, mem, bad⟩
  · rintro ⟨entries, key, value, reached, mem, bad⟩
    exact ⟨entries, reached, (key, value), mem, bad⟩

/-- A tree is left out exactly if it is null under its tags. -/
theorem Tree.toValue_eq_none_iff {tree : Tree} :
    tree.toValue = .ok none ↔ tree.untagged = .null := by
  constructor
  · intro read
    by_cases keys : tree.KeysAreScalars
    · rcases tree.null_or_said keys with null | ⟨value, said⟩
      · exact null
      · rw [said.toValue] at read
        cases read
    · rw [tree.toValue_of_not_keysAreScalars keys] at read
      cases read
  · exact tree.toValue_of_untagged

/-- A tree is read as the value that it says, and as no other. -/
theorem Tree.toValue_eq_some_iff {tree : Tree} {value : Value} :
    tree.toValue = .ok (some value) ↔ tree.Says value := by
  constructor
  · intro read
    by_cases keys : tree.KeysAreScalars
    · rcases tree.null_or_said keys with null | ⟨other, said⟩
      · rw [tree.toValue_of_untagged null] at read
        cases read
      · rw [said.toValue] at read
        cases read
        exact said
    · rw [tree.toValue_of_not_keysAreScalars keys] at read
      cases read
  · exact Tree.Says.toValue

/-- No other problem than a key is met on the way to a block's root. -/
theorem Tree.toBlock_eq_keyNotScalar_iff {tree : Tree} :
    tree.toBlock = .error .keyNotScalar ↔ tree.toValue = .error .keyNotScalar := by
  rw [toBlock]
  split <;> simp_all

/-- Tags in front of a tree do not change what it says. -/
theorem Tree.Says.of_untagged : ∀ {tree : Tree} {value : Value}, tree.Says value →
    tree.untagged.Says value
  | _, _, .boolean truth => .boolean truth
  | _, _, .integer number => .integer number
  | _, _, .float number => .float number
  | _, _, .string text => .string text
  | _, _, .sequence items => .sequence items
  | _, _, .mapping entries => .mapping entries
  | _, _, .tagged said => said.of_untagged

theorem Tree.untagged_ne_tagged : ∀ {tree : Tree} {tag : List Char} {value : Tree},
    tree.untagged ≠ .tagged tag value
  | .tagged _ inner, _, _ => inner.untagged_ne_tagged
  | .null, _, _ | .boolean _, _, _ | .integer _, _, _ | .float _, _, _ | .string _, _, _
  | .sequence _, _, _ | .mapping _, _, _ => nofun

/-- An integer stands for a number, never for a block. -/
theorem integerValue_cases (n : Int) :
    (∃ m, integerValue n = .integer m) ∨ ∃ x, integerValue n = .float x := by
  rw [integerValue]
  split
  · exact .inl ⟨_, rfl⟩
  · exact .inr ⟨_, rfl⟩

/-- What the root of a tree makes of the value that it says. -/
theorem Tree.toBlock_of_said {tree : Tree} {value : Value} (said : tree.Says value) :
    match tree.untagged with
    | .null => False
    | .mapping _ => ∃ block, value = .block block ∧ tree.toBlock = .ok block
    | _ => tree.toBlock = .error (.rootNotMapping value.typeName) := by
  have read : tree.toValue = .ok (some value) := said.toValue
  have root := said.of_untagged
  have bare (tag : List Char) (inner : Tree) : tree.untagged ≠ .tagged tag inner :=
    tree.untagged_ne_tagged
  rw [toBlock, read]
  generalize tree.untagged = top at root bare
  cases root with
  | boolean truth => rfl
  | integer number =>
    rcases integerValue_cases number with ⟨m, same⟩ | ⟨x, same⟩
    · rw [same]
    · rw [same]
  | float number => rfl
  | string text => rfl
  | sequence items => rfl
  | mapping entries => exact ⟨_, rfl, rfl⟩
  | tagged inner => exact absurd rfl (bare _ _)

/-- **What a document's tree is read as.**

    * Reading fails on account of a key exactly if a mapping that lies in the tree has a key that is
      no string, number or truth value, whatever the value under the key is.
    * The tree is left out exactly if it is null under its tags, and otherwise its value is the one
      that it says: the same tree without tags, without the items and entries that are null, and
      with texts for keys.
    * Unless a key is at fault, null at the root is the empty block, a mapping is a block, and any
      other root is no document, as the message says.
    * A blank text is the empty block, and any other text is read as its tree. -/
theorem Tree.toBlock_outcome (tree : Tree) :
    (tree.toBlock = .error .keyNotScalar ↔ ∃ entries key value,
      tree.Reaches (.mapping entries) ∧ (key, value) ∈ entries ∧ key.isScalar = false) ∧
    (tree.toValue = .ok none ↔ tree.untagged = .null) ∧
    (∀ value, tree.toValue = .ok (some value) ↔ tree.Says value) ∧
    (tree.toBlock ≠ .error .keyNotScalar →
      match tree.untagged with
      | .null => tree.toBlock = .ok []
      | .mapping _ => ∃ block, tree.Says (.block block) ∧ tree.toBlock = .ok block
      | _ => ∃ value, tree.Says value ∧ tree.toBlock = .error (.rootNotMapping value.typeName)) ∧
    (∀ text, Text.blank text = true → DocumentFormat.yaml.read text = .ok []) ∧
    (∀ text, Text.blank text = false → read? text = some tree →
      DocumentFormat.yaml.read text = tree.toBlock) ∧
    ∀ messages, (DocumentError.invalid .yaml .keyNotScalar).message messages =
        "Failed to parse YAML document: mapping keys must be scalars" ∧
      ∀ found, (DocumentError.invalid .yaml (.rootNotMapping found)).message messages =
        "Failed to parse YAML document: document root must be a mapping, found " ++ found := by
  have fault : tree.toBlock = .error .keyNotScalar ↔ ¬ tree.KeysAreScalars :=
    toBlock_eq_keyNotScalar_iff.trans toValue_eq_error_iff
  refine ⟨fault.trans not_keysAreScalars_iff, toValue_eq_none_iff, fun _ => toValue_eq_some_iff,
    fun noFault => ?_, fun text blank => ?_, fun text filled read => ?_, fun messages =>
      ⟨rfl, fun found => ?_⟩⟩
  · have keys : tree.KeysAreScalars := Classical.not_not.1 fun bad => noFault (fault.2 bad)
    rcases tree.null_or_said keys with null | ⟨value, said⟩
    · rw [null, toBlock, tree.toValue_of_untagged null]
    · have root := toBlock_of_said said
      split at root
      case h_1 => exact root.elim
      case h_2 =>
        obtain ⟨block, rfl, read⟩ := root
        exact ⟨block, said, read⟩
      case h_3 => exact ⟨value, said, root⟩
  · rw [DocumentFormat.read, if_pos blank]
  · rw [DocumentFormat.read, if_neg (by simp [filled]), read]
  · show "Failed to parse " ++ "YAML" ++ " document: " ++
      ("document root must be a mapping, found " ++ found) = _
    rw [← String.append_assoc]
    rfl

/-- A key that is null is found in a mapping under a tag, though its value is null as well and would
    be left out; where all keys are scalars, what is null under a tag goes and the rest stays. -/
theorem Tree.toBlock_outcome_null_under_tag :
    let bad : Tree := .sequence [.tagged ['!', 'a'] (.mapping [(.null, .null)])]
    let good : Tree := .tagged ['!', 'a'] (.mapping [(.string "gone", .tagged ['!', 'b'] .null),
      (.boolean true, .sequence [.null, .string "x"])])
    bad.toBlock = .error .keyNotScalar ∧
    good.toBlock ≠ .error .keyNotScalar ∧ good.toBlock = .ok [("true", .list [.string "x"])] := by
  intro bad good
  have reached : bad.Reaches (.mapping [(.null, .null)]) :=
    .item List.mem_cons_self (.under (.here _))
  have said : good.Says (.block [("true", .list [.string "x"])]) :=
    .tagged (.mapping (.null rfl rfl (.cons rfl
      (.sequence (.null rfl (.cons (.string "x") .nil))) .nil)))
  obtain ⟨fault, -⟩ := bad.toBlock_outcome
  obtain ⟨-, -, values, root, -⟩ := good.toBlock_outcome
  have read := (values _).2 said
  have fine : good.toBlock ≠ .error .keyNotScalar := by
    intro failed
    rw [toBlock_eq_keyNotScalar_iff, read] at failed
    cases failed
  obtain ⟨block, said', read'⟩ := root fine
  have same := (values _).2 said'
  rw [read] at same
  cases same
  exact ⟨fault.2 ⟨_, _, _, reached, List.mem_cons_self, rfl⟩, fine, read'⟩

end DeployConfig.Yaml
