/-
  YAML documents.

  Anchors are numbered in the order of the document, and a reference stands for the last node that
  got its number.  Then scalars are read, tags are kept where they are the document's own, and
  references are replaced by what they stand for; the depth of collections and the number of
  replacements are limited.
-/
import DeployConfig.Yaml.Node
import DeployConfig.Yaml.Scalar

namespace DeployConfig.Yaml

/-- A node with the number of its anchor. -/
abbrev NumberedNode := Node Nat

/-! ## Numbering anchors -/

/-- The number of each name of an anchor. -/
abbrev AnchorNumbers := List (List Char × Nat)

/-- The properties of a node with its anchor numbered.  The number is how many names have one; a
    name that comes up again takes a new number but adds no name. -/
def numberProperties (names : AnchorNumbers) (p : Properties (List Char)) :
    Properties Nat × AnchorNumbers :=
  match p.anchor with
  | none => (⟨none, p.tag⟩, names)
  | some name =>
    let number := names.length
    (⟨some number, p.tag⟩, (name, number) :: names.filter fun entry => entry.1 != name)

mutual

/-- A node with its anchors numbered, unless it refers to a name that has no number yet. -/
def NamedNode.number? (names : AnchorNumbers) : NamedNode → Option (NumberedNode × AnchorNumbers)
  | .reference name => (names.lookup name).map fun number => (.reference number, names)
  | .scalar p text plain =>
    let (p, names) := numberProperties names p
    some (.scalar p text plain, names)
  | .sequence p items =>
    let (p, names) := numberProperties names p
    (numberItems? names items).map fun (items, names) => (.sequence p items, names)
  | .mapping p entries =>
    let (p, names) := numberProperties names p
    (numberEntries? names entries).map fun (entries, names) => (.mapping p entries, names)

/-- The items of a sequence with their anchors numbered. -/
def numberItems? (names : AnchorNumbers) :
    List NamedNode → Option (List NumberedNode × AnchorNumbers)
  | [] => some ([], names)
  | item :: rest => do
    let (item, names) ← NamedNode.number? names item
    let (items, names) ← numberItems? names rest
    some (item :: items, names)

/-- The entries of a mapping with their anchors numbered. -/
def numberEntries? (names : AnchorNumbers) :
    List (NamedNode × NamedNode) → Option (List (NumberedNode × NumberedNode) × AnchorNumbers)
  | [] => some ([], names)
  | (key, value) :: rest => do
    let (key, names) ← NamedNode.number? names key
    let (value, names) ← NamedNode.number? names value
    let (entries, names) ← numberEntries? names rest
    some ((key, value) :: entries, names)

end

/-! ## What a document holds -/

/-- A number of an anchor and the node that has it. -/
abbrev Anchored := List (Nat × NumberedNode)

mutual

/-- The anchored nodes of a node, in the order of the document. -/
def NumberedNode.anchored : NumberedNode → Anchored
  | .reference _ => []
  | .scalar p text plain => anchorOf p (.scalar p text plain)
  | .sequence p items => anchorOf p (.sequence p items) ++ anchoredItems items
  | .mapping p entries => anchorOf p (.mapping p entries) ++ anchoredEntries entries

/-- The anchored nodes of a list of nodes. -/
def anchoredItems : List NumberedNode → Anchored
  | [] => []
  | item :: rest => NumberedNode.anchored item ++ anchoredItems rest

/-- The anchored nodes of a list of entries. -/
def anchoredEntries : List (NumberedNode × NumberedNode) → Anchored
  | [] => []
  | (key, value) :: rest =>
    NumberedNode.anchored key ++ NumberedNode.anchored value ++ anchoredEntries rest

/-- A node under its own number, if it has one. -/
def anchorOf (p : Properties Nat) (node : NumberedNode) : Anchored :=
  (p.anchor.map fun number => (number, node)).toList

end

mutual

/-- The number of events in a node: one for a scalar or a reference, two for the ends of a
    collection. -/
def NumberedNode.size : NumberedNode → Nat
  | .reference _ => 1
  | .scalar _ _ _ => 1
  | .sequence _ items => sizeItems items + 2
  | .mapping _ entries => sizeEntries entries + 2

/-- The number of events in a list of nodes. -/
def sizeItems : List NumberedNode → Nat
  | [] => 0
  | item :: rest => NumberedNode.size item + sizeItems rest

/-- The number of events in a list of entries. -/
def sizeEntries : List (NumberedNode × NumberedNode) → Nat
  | [] => 0
  | (key, value) :: rest =>
    NumberedNode.size key + NumberedNode.size value + sizeEntries rest

end

/-! ## Trees -/

/-- Collections may lie in so many collections. -/
def depthLimit : Nat := 128

/-- Building a tree counts down the references that may still be replaced. -/
abbrev Building := StateT Nat Option

/-- The name of a tag that is the document's own: what follows the exclamation mark. -/
def ownTag? : Option (List Char) → Option (List Char)
  | some ('!' :: rest) => some (if rest.isEmpty then ['!'] else rest)
  | _ => none

/-- The tree of a scalar. -/
def scalarTree? (tag : Option (List Char)) (text : List Char) (plain : Bool) : Option Tree :=
  let untagged := if plain then Scalar.plain? text else some (.string (String.ofList text))
  match ownTag? tag, tag with
  | some name, _ => untagged.map (.tagged name)
  | none, some tag => Scalar.withTag? tag text
  | none, none => untagged

/-- A tree under a tag that is the document's own. -/
def underTag (tag : Option (List Char)) (tree : Tree) : Tree :=
  match ownTag? tag with
  | some name => .tagged name tree
  | none => tree

/-- The tree of a node that is no reference, given how the nodes inside it are built; there is no
    way to build them at the greatest depth. -/
def content (inside : Option (NumberedNode → Building Tree)) : NumberedNode → Building Tree
  | .reference _ => failure
  | .scalar p text plain =>
    match scalarTree? p.tag text plain with
    | some tree => pure tree
    | none => failure
  | .sequence p items => do
    let some build := inside | failure
    let trees ← items.mapM build
    return underTag p.tag (.sequence trees)
  | .mapping p entries => do
    let some build := inside | failure
    let trees ← entries.mapM fun entry => do
      let key ← build entry.1
      let value ← build entry.2
      return (key, value)
    if distinctKeys trees then return underTag p.tag (.mapping trees) else failure

/-- The tree of a node inside which collections may still lie so deep. -/
def buildTree (anchored : Anchored) : Nat → NumberedNode → Building Tree
  | depth, node =>
    let inside := match depth with
      | 0 => none
      | depth + 1 => some (buildTree anchored depth)
    match node with
    | .reference number => do
      let left ← get
      if left = 0 then failure
      set (left - 1)
      match anchored.reverse.lookup number with
      | some target => content inside target
      | none => failure
    | node => content inside node

/-- The tree of the document that a text writes; a text without a document is null. -/
def read? (text : String) : Option Tree := do
  let tokens ← Token.read? text.toList
  match ← document? tokens with
  | none => some .null
  | some named =>
    let (node, _) ← named.number? []
    let limit := 100 * node.size
    let (tree, _) ← (buildTree node.anchored depthLimit node).run limit
    some tree

end DeployConfig.Yaml
