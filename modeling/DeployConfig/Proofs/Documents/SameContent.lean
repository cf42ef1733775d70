/-
  Documents with the same content.

  A content is a value: a block of values by name, among them lists and blocks again.  YAML has one
  kind of tree for each kind of value.  TOML has two for a block and two for a list of blocks, mixed
  at will and at every depth.  Whether a tree denotes a value is asked without reading the tree
  (`Yaml.Tree.denotes`, `Toml.Item.denotes`), and documents that denote the same block declare the
  same, whatever the formats and the forms are (`Extension.load_same_content`).

  The inductions follow the trees, with one function for each kind of list that a tree holds.
-/
import DeployConfig.Extension.Load
import DeployConfig.Proofs.Documents.Conversion

namespace DeployConfig

/-! ## What YAML trees denote -/

namespace Yaml

mutual

/-- Whether a tree denotes a value.  There is one kind of tree for each kind of value. -/
def Tree.denotes : Tree → Value → Bool
  | .string text, .string other => text == other
  | .integer number, .integer other => number == other.toInt
  | .float number, .float other => number == other
  | .boolean truth, .boolean other => truth == other
  | .sequence items, .list values => itemsDenote items values
  | .mapping entries, .block block => entriesDenote entries block
  | _, _ => false

/-- Whether trees denote the values of a list one by one. -/
def itemsDenote : List Tree → List Value → Bool
  | [], [] => true
  | item :: items, value :: values => item.denotes value && itemsDenote items values
  | _, _ => false

/-- Whether entries denote a block, under the same names and in the same order. -/
def entriesDenote : List (Tree × Tree) → List (String × Value) → Bool
  | [], [] => true
  | (.string key, item) :: entries, (name, value) :: block =>
    key == name && item.denotes value && entriesDenote entries block
  | _, _ => false

end

/-- An integer of 64 bits is taken as it is. -/
theorem integerValue_toInt (number : Int64) : integerValue number.toInt = .integer number := by
  have bounded : number.toInt ≤ 9223372036854775807 := Int64.toInt_le number
  rw [integerValue, if_pos bounded, Int64.ofInt_toInt]

mutual

/-- A tree is read as the value that it denotes. -/
theorem Tree.toValue_of_denotes :
    ∀ (tree : Tree) (value : Value), tree.denotes value = true → tree.toValue = .ok (some value)
  | .string text, value, h => by
    -- A value of any other kind is not denoted: `denotes` computes to `false` there.
    cases value with
    | string other => rw [Tree.toValue, eq_of_beq h]
    | _ => cases h
  | .integer number, value, h => by
    cases value with
    | integer other => rw [Tree.toValue, eq_of_beq h, integerValue_toInt]
    | _ => cases h
  | .float number, value, h => by
    cases value with
    | float other => rw [Tree.toValue, eq_of_beq h]
    | _ => cases h
  | .boolean truth, value, h => by
    cases value with
    | boolean other => rw [Tree.toValue, eq_of_beq h]
    | _ => cases h
  | .sequence items, value, h => by
    cases value with
    | list values =>
      rw [Tree.toValue, valuesOf_of_itemsDenote items values h]
      rfl
    | _ => cases h
  | .mapping entries, value, h => by
    cases value with
    | block block =>
      rw [Tree.toValue, blockOf_of_entriesDenote entries block h]
      rfl
    | _ => cases h

theorem valuesOf_of_itemsDenote :
    ∀ (items : List Tree) (values : List Value), itemsDenote items values = true →
      valuesOf items = .ok values
  | [], values, h => by
    cases values with
    | nil => rw [valuesOf]
    | cons => cases h
  | item :: items, values, h => by
    cases values with
    | nil => cases h
    | cons value values =>
      obtain ⟨first, rest⟩ := (Bool.and_eq_true_iff ..).1 h
      exact valuesOf_cons (Tree.toValue_of_denotes item value first)
        (valuesOf_of_itemsDenote items values rest)

theorem blockOf_of_entriesDenote :
    ∀ (entries : List (Tree × Tree)) (block : List (String × Value)),
      entriesDenote entries block = true → blockOf entries = .ok block
  | [], block, h => by
    cases block with
    | nil => rw [blockOf]
    | cons => cases h
  | (key, item) :: entries, block, h => by
    cases block with
    | nil => cases key <;> cases h
    | cons entry block =>
      obtain ⟨name, value⟩ := entry
      cases key with
      | string key =>
        obtain ⟨named, rest⟩ := (Bool.and_eq_true_iff ..).1 h
        obtain ⟨same, first⟩ := (Bool.and_eq_true_iff ..).1 named
        rw [← eq_of_beq same]
        exact blockOf_cons_of_keyText rfl (Tree.toValue_of_denotes item value first)
          (blockOf_of_entriesDenote entries block rest)
      | _ => cases h

end

/-- A tree that denotes a block is read as the block. -/
theorem Tree.toBlock_of_denotes {tree : Tree} {block : Block}
    (h : tree.denotes (.block block) = true) : tree.toBlock = .ok block := by
  rw [toBlock, toValue_of_denotes tree (.block block) h]

end Yaml

/-! ## What TOML tables denote -/

namespace Toml

mutual

/-- Whether an item denotes a value, in one of the forms that there are for it.  A list of blocks may
    be an array of tables as well as an array, and a block may stand between braces or under a
    header, whatever its table came from. -/
def Item.denotes : Item → Value → Bool
  | .string text, .string other => text == other
  | .integer number, .integer other => number == other
  | .float number, .float other => number == other
  | .boolean truth, .boolean other => truth == other
  | .array items, .list values => itemsDenote items values
  | .tableArray tables, .list values => tablesDenote tables values
  | .inlineTable _ entries, .block block => entriesDenote entries block
  | .table _ entries, .block block => entriesDenote entries block
  | _, _ => false

/-- Whether items denote the values of a list one by one. -/
def itemsDenote : List Item → List Value → Bool
  | [], [] => true
  | item :: items, value :: values => item.denotes value && itemsDenote items values
  | _, _ => false

/-- Whether tables denote the values of a list, all of which are blocks. -/
def tablesDenote : List (List (String × Item)) → List Value → Bool
  | [], [] => true
  | entries :: tables, .block block :: values => entriesDenote entries block && tablesDenote tables values
  | _, _ => false

/-- Whether entries denote a block, under the same names and in the same order. -/
def entriesDenote : List (String × Item) → List (String × Value) → Bool
  | [], [] => true
  | (key, item) :: entries, (name, value) :: block =>
    key == name && item.denotes value && entriesDenote entries block
  | _, _ => false

end

mutual

/-- An item is read as the value that it denotes. -/
theorem Item.toValue_of_denotes :
    ∀ (item : Item) (value : Value), item.denotes value = true → item.toValue = value
  | .string text, value, h => by
    cases value with
    | string other => rw [Item.toValue, eq_of_beq h]
    | _ => cases h
  | .integer number, value, h => by
    cases value with
    | integer other => rw [Item.toValue, eq_of_beq h]
    | _ => cases h
  | .float number, value, h => by
    cases value with
    | float other => rw [Item.toValue, eq_of_beq h]
    | _ => cases h
  | .boolean truth, value, h => by
    cases value with
    | boolean other => rw [Item.toValue, eq_of_beq h]
    | _ => cases h
  | .array items, value, h => by
    cases value with
    | list values => rw [Item.toValue, valuesOf_of_itemsDenote items values h]
    | _ => cases h
  | .tableArray tables, value, h => by
    cases value with
    | list values => rw [Item.toValue, blocksOf_of_tablesDenote tables values h]
    | _ => cases h
  | .inlineTable _ entries, value, h => by
    cases value with
    | block block => rw [Item.toValue, blockOf_of_entriesDenote entries block h]
    | _ => cases h
  | .table _ entries, value, h => by
    cases value with
    | block block => rw [Item.toValue, blockOf_of_entriesDenote entries block h]
    | _ => cases h

theorem valuesOf_of_itemsDenote :
    ∀ (items : List Item) (values : List Value), itemsDenote items values = true →
      valuesOf items = values
  | [], values, h => by
    cases values with
    | nil => rw [valuesOf]
    | cons => cases h
  | item :: items, values, h => by
    cases values with
    | nil => cases h
    | cons value values =>
      obtain ⟨first, rest⟩ := (Bool.and_eq_true_iff ..).1 h
      rw [valuesOf, Item.toValue_of_denotes item value first,
        valuesOf_of_itemsDenote items values rest]

theorem blocksOf_of_tablesDenote :
    ∀ (tables : List (List (String × Item))) (values : List Value), tablesDenote tables values = true →
      blocksOf tables = values
  | [], values, h => by
    cases values with
    | nil => rw [blocksOf]
    | cons => cases h
  | entries :: tables, values, h => by
    cases values with
    | nil => cases h
    | cons value values =>
      cases value with
      | block block =>
        obtain ⟨first, rest⟩ := (Bool.and_eq_true_iff ..).1 h
        rw [blocksOf, blockOf_of_entriesDenote entries block first,
          blocksOf_of_tablesDenote tables values rest]
      | _ => cases h

/-- A table is read as the block that it denotes. -/
theorem blockOf_of_entriesDenote :
    ∀ (entries : List (String × Item)) (block : List (String × Value)),
      entriesDenote entries block = true → blockOf entries = block
  | [], block, h => by
    cases block with
    | nil => rw [blockOf]
    | cons => cases h
  | (key, item) :: entries, block, h => by
    cases block with
    | nil => cases h
    | cons entry block =>
      obtain ⟨name, value⟩ := entry
      obtain ⟨named, rest⟩ := (Bool.and_eq_true_iff ..).1 h
      obtain ⟨same, first⟩ := (Bool.and_eq_true_iff ..).1 named
      rw [blockOf, eq_of_beq same, Item.toValue_of_denotes item value first,
        blockOf_of_entriesDenote entries block rest]

end

end Toml

/-! ## Documents -/

namespace Files

/-- The document at a path is TOML, and what is read of it denotes a block. -/
def HoldsToml (files : Files) (path : Path) (block : Block) : Prop :=
  DocumentFormat.ofPath path = .ok .toml ∧ ∃ text, files.readText path = .ok text ∧
    (Toml.read? text).any (Toml.entriesDenote · block) = true

/-- The document at a path is YAML that is not blank, and what is read of it denotes a block. -/
def HoldsYaml (files : Files) (path : Path) (block : Block) : Prop :=
  DocumentFormat.ofPath path = .ok .yaml ∧ ∃ text, files.readText path = .ok text ∧
    Text.blank text = false ∧ (Yaml.read? text).any (Yaml.Tree.denotes · (.block block)) = true

variable {files : Files} {path : Path} {block : Block}

theorem loadDocument_of_holdsToml (held : files.HoldsToml path block) :
    files.loadDocument path = .ok block := by
  obtain ⟨format, text, read, denoted⟩ := held
  obtain ⟨entries, parsed, same⟩ := (Option.any_eq_true ..).1 denoted
  rw [loadDocument, format, read]
  show (DocumentFormat.toml.read text).mapError _ = _
  rw [DocumentFormat.read, parsed]
  show Except.ok (Toml.blockOf entries) = _
  rw [Toml.blockOf_of_entriesDenote entries block same]

theorem loadDocument_of_holdsYaml (held : files.HoldsYaml path block) :
    files.loadDocument path = .ok block := by
  obtain ⟨format, text, read, filled, denoted⟩ := held
  obtain ⟨tree, parsed, same⟩ := (Option.any_eq_true ..).1 denoted
  rw [loadDocument, format, read]
  show (DocumentFormat.yaml.read text).mapError _ = _
  rw [DocumentFormat.read, filled, if_neg Bool.false_ne_true, parsed]
  show tree.toBlock.mapError _ = _
  rw [Yaml.Tree.toBlock_of_denotes same]
  rfl

end Files

/-- **Documents with the same content declare the same.**

    * A tree and a table that denote the same block are both read as this block, with its order
      of entries and of lists, whichever forms the table has.
    * An extension is loaded from either document, or loading fails, with the same outcome. -/
theorem Extension.load_same_content (block : Block) :
    (∀ tree entries, Yaml.Tree.denotes tree (.block block) = true →
      Toml.entriesDenote entries block = true →
        tree.toBlock = .ok block ∧ Toml.blockOf entries = block) ∧
    ∀ (files : Files) (project : Project) (yaml toml : Path), files.HoldsYaml yaml block →
      files.HoldsToml toml block → load files project yaml = load files project toml := by
  constructor
  · intro tree entries inYaml inToml
    exact ⟨Yaml.Tree.toBlock_of_denotes inYaml, Toml.blockOf_of_entriesDenote entries block inToml⟩
  · intro files project yaml toml inYaml inToml
    rw [load, load, Files.loadDocument_of_holdsYaml inYaml, Files.loadDocument_of_holdsToml inToml]

/-- A mapping and two images: in tables of an array, between braces and under a header, and in flow
    and block collections. -/
theorem load_same_content_forms :
    let toml := "[[kubernetes.mapping]]\nkind = 'Var'\n[kubernetes.images]\n" ++
      "a = \x7bname = 'x'\x7d\n[kubernetes.images.b]\nname = 'y'\n"
    let yaml := "kubernetes:\n  mapping: [\x7bkind: Var\x7d]\n  images:\n" ++
      "    a: \x7bname: x\x7d\n    b:\n      name: y\n"
    let files : Files := fun path => .file (some (if path.text = "k.toml" then toml else yaml))
    let project : Project := ⟨.conventional ⟨"/p"⟩, .empty⟩
    Extension.load files project ⟨"k.yml"⟩ = Extension.load files project ⟨"k.toml"⟩ := by
  intro toml yaml files project
  let content : Block := [("kubernetes", .block [
    ("mapping", .list [.block [("kind", .string "Var")]]),
    ("images", .block [
      ("a", .block [("name", .string "x")]),
      ("b", .block [("name", .string "y")])])])]
  have inYaml : files.HoldsYaml ⟨"k.yml"⟩ content :=
    ⟨rfl, yaml, rfl, by decide +kernel, by decide +kernel⟩
  have inToml : files.HoldsToml ⟨"k.toml"⟩ content := ⟨rfl, toml, rfl, by decide +kernel⟩
  exact (Extension.load_same_content content).2 files project _ _ inYaml inToml

end DeployConfig
