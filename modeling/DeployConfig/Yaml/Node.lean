/-
  Nodes of YAML documents.

  A node is a scalar, a sequence, a mapping, or a reference to an anchored node.  The tokens of a
  text form at most one document; an entry or a value that is left out is an empty plain scalar.
-/
import DeployConfig.Yaml.Token

namespace DeployConfig.Yaml

/-- What may be written in front of a node: an anchor, and a tag with its handle resolved. -/
structure Properties (α : Type) where
  anchor : Option α := none
  tag : Option (List Char) := none
  deriving DecidableEq, Repr, Inhabited

/-- A node whose anchors are of some type. -/
inductive Node (α : Type) where
  | reference (anchor : α)
  | scalar (properties : Properties α) (text : List Char) (plain : Bool)
  | sequence (properties : Properties α) (items : List (Node α))
  | mapping (properties : Properties α) (entries : List (Node α × Node α))
  deriving Inhabited

/-- A node with the name of its anchor. -/
abbrev NamedNode := Node (List Char)

/-- The node that stands for one left out. -/
def NamedNode.empty (properties : Properties (List Char)) : NamedNode := .scalar properties [] true

/-- The meanings of the handles of tags. -/
abbrev Handles := List (List Char × List Char)

/-- The handles that have a meaning in every document. -/
def Handles.standard : Handles :=
  [(['!'], ['!']), (['!', '!'], "tag:yaml.org,2002:".toList)]

/-- The tag that a handle and a suffix write. -/
def Handles.tag? (handles : Handles) (handle suffix : List Char) : Option (List Char) :=
  if handle.isEmpty then some suffix
  else (handles.lookup handle).map (· ++ suffix)

/-- The properties in front of a node: an anchor and a tag, in either order. -/
def properties? (handles : Handles) : List Token → Option (Properties (List Char) × List Token)
  | .anchor name :: .tag handle suffix :: rest =>
    (handles.tag? handle suffix).map fun tag => (⟨some name, some tag⟩, rest)
  | .tag handle suffix :: .anchor name :: rest =>
    (handles.tag? handle suffix).map fun tag => (⟨some name, some tag⟩, rest)
  | .anchor name :: rest => some (⟨some name, none⟩, rest)
  | .tag handle suffix :: rest =>
    (handles.tag? handle suffix).map fun tag => (⟨none, some tag⟩, rest)
  | rest => some ({}, rest)

/-- Whether the next token is one of a list. -/
def nextIn (tokens rest : List Token) : Bool := rest.head?.any tokens.contains

/-- What follows the comma that has to stand in front of every item of a flow collection but the
    first. -/
def afterComma? (first : Bool) (tokens : List Token) : Option (List Token) :=
  if first then some tokens
  else match tokens with
    | .flowEntry :: rest => some rest
    | _ => none

/-- A node of which nothing but its properties is written, of which there has to be one. -/
def bare? (properties : Properties (List Char)) (rest : List Token) :
    Option (NamedNode × List Token) :=
  if properties.anchor.isNone && properties.tag.isNone then none
  else some (NamedNode.empty properties, rest)

mutual

/-- A node at the start of the tokens.  Block collections start only in blocks, and a sequence
    without indentation only as the value of a mapping. -/
def node? (handles : Handles) (block unindented : Bool) :
    Nat → List Token → Option (NamedNode × List Token)
  | 0, _ => none
  | steps + 1, tokens =>
    match tokens with
    | .reference name :: rest => some (.reference name, rest)
    | tokens => do
      let (properties, rest) ← properties? handles tokens
      match rest with
      | .scalar text plain :: rest =>
        let untagged : Properties (List Char) := { properties with tag := none }
        some (.scalar (if properties.tag == some ['!'] then untagged else properties) text plain,
          rest)
      | .flowSequenceStart :: rest =>
        let (items, rest) ← flowItems? handles true steps rest
        some (.sequence properties items, rest)
      | .flowMappingStart :: rest =>
        let (entries, rest) ← flowEntries? handles true steps rest
        some (.mapping properties entries, rest)
      | .blockSequenceStart :: rest => do
        guard block
        let (items, rest) ← blockItems? handles steps rest
        some (.sequence properties items, rest)
      | .blockMappingStart :: rest => do
        guard block
        let (entries, rest) ← blockEntries? handles steps rest
        some (.mapping properties entries, rest)
      | .blockEntry :: more =>
        if unindented then do
          let (items, rest) ← unindentedItems? handles steps (.blockEntry :: more)
          some (.sequence properties items, rest)
        else bare? properties rest
      | rest => bare? properties rest

/-- The items of a block sequence up to its end. -/
def blockItems? (handles : Handles) : Nat → List Token → Option (List NamedNode × List Token)
  | 0, _ => none
  | steps + 1, tokens =>
    match tokens with
    | .blockEnd :: rest => some ([], rest)
    | .blockEntry :: rest => do
      let (item, rest) ← orEmpty? handles true false [.blockEntry, .blockEnd] steps rest
      let (items, rest) ← blockItems? handles steps rest
      some (item :: items, rest)
    | _ => none

/-- The items of a sequence without indentation, up to what is no item of it. -/
def unindentedItems? (handles : Handles) : Nat → List Token → Option (List NamedNode × List Token)
  | 0, _ => none
  | steps + 1, tokens =>
    match tokens with
    | .blockEntry :: rest => do
      let (item, rest) ←
        orEmpty? handles true false [.blockEntry, .key, .value, .blockEnd] steps rest
      let (items, rest) ← unindentedItems? handles steps rest
      some (item :: items, rest)
    | rest => some ([], rest)

/-- The entries of a block mapping up to its end. -/
def blockEntries? (handles : Handles) :
    Nat → List Token → Option (List (NamedNode × NamedNode) × List Token)
  | 0, _ => none
  | steps + 1, tokens =>
    match tokens with
    | .blockEnd :: rest => some ([], rest)
    | .key :: rest => do
      let ends : List Token := [.key, .value, .blockEnd]
      let (key, rest) ← orEmpty? handles true true ends steps rest
      let (value, rest) ← value? handles true ends steps rest
      let (entries, rest) ← blockEntries? handles steps rest
      some ((key, value) :: entries, rest)
    | _ => none

/-- The items of a flow sequence up to its end.  An item may be a mapping of one entry. -/
def flowItems? (handles : Handles) (first : Bool) :
    Nat → List Token → Option (List NamedNode × List Token)
  | 0, _ => none
  | steps + 1, tokens =>
    match tokens with
    | .flowSequenceEnd :: rest => some ([], rest)
    | tokens => do
      match ← afterComma? first tokens with
      | .flowSequenceEnd :: rest => some ([], rest)
      | .key :: rest =>
        let ends : List Token := [.value, .flowEntry, .flowSequenceEnd]
        let (key, rest) ←
          if nextIn ends rest then some (NamedNode.empty {}, rest.drop 1)
          else node? handles false false steps rest
        let (value, rest) ← value? handles false [.flowEntry, .flowSequenceEnd] steps rest
        let (items, rest) ← flowItems? handles false steps rest
        some (.mapping {} [(key, value)] :: items, rest)
      | rest =>
        let (item, rest) ← node? handles false false steps rest
        let (items, rest) ← flowItems? handles false steps rest
        some (item :: items, rest)

/-- The entries of a flow mapping up to its end.  A node on its own is a key without value. -/
def flowEntries? (handles : Handles) (first : Bool) :
    Nat → List Token → Option (List (NamedNode × NamedNode) × List Token)
  | 0, _ => none
  | steps + 1, tokens =>
    match tokens with
    | .flowMappingEnd :: rest => some ([], rest)
    | tokens => do
      match ← afterComma? first tokens with
      | .flowMappingEnd :: rest => some ([], rest)
      | .key :: rest =>
        let (key, rest) ←
          orEmpty? handles false false [.value, .flowEntry, .flowMappingEnd] steps rest
        let (value, rest) ← value? handles false [.flowEntry, .flowMappingEnd] steps rest
        let (entries, rest) ← flowEntries? handles false steps rest
        some ((key, value) :: entries, rest)
      | rest =>
        let (key, rest) ← node? handles false false steps rest
        let (entries, rest) ← flowEntries? handles false steps rest
        some ((key, NamedNode.empty {}) :: entries, rest)

/-- The value of an entry: what follows a colon, and otherwise nothing. -/
def value? (handles : Handles) (block : Bool) (ends : List Token) :
    Nat → List Token → Option (NamedNode × List Token)
  | 0, _ => none
  | steps + 1, tokens =>
    match tokens with
    | .value :: rest => orEmpty? handles block block ends steps rest
    | rest => some (NamedNode.empty {}, rest)

/-- A node, or the empty one if the tokens go on with one that ends it. -/
def orEmpty? (handles : Handles) (block unindented : Bool) (ends : List Token) :
    Nat → List Token → Option (NamedNode × List Token)
  | 0, _ => none
  | steps + 1, tokens =>
    if nextIn ends tokens then some (NamedNode.empty {}, tokens)
    else node? handles block unindented steps tokens

end

/-! ## Documents -/

/-- The directives in front of a document. -/
structure Directives where
  version : Option (Nat × Nat) := none
  handles : Handles := []

/-- The directives at the start of the tokens.  There is at most one version, which has to be 1.1
    or 1.2, and one meaning for each handle. -/
def directives? (d : Directives) : List Token → Option (Directives × List Token)
  | .version major minor :: rest =>
    if d.version.isNone && major == 1 && (minor == 1 || minor == 2) then
      directives? { d with version := some (major, minor) } rest
    else none
  | .tagDirective handle meaning :: rest =>
    if (d.handles.lookup handle).isNone then
      directives? { d with handles := d.handles ++ [(handle, meaning)] } rest
    else none
  | rest => some (d, rest)

/-- Whether a document may start here without a marker. -/
def startsImplicitly : List Token → Bool
  | [] => false
  | .version _ _ :: _ => false
  | .tagDirective _ _ :: _ => false
  | .documentStart :: _ => false
  | _ => true

/-- The node of the document that tokens form, if there is a document.  Nothing may follow it but
    markers of its end. -/
def document? (tokens : List Token) : Option (Option NamedNode) :=
  let steps := 4 * tokens.length + 4
  if tokens.isEmpty then some none
  else do
    let (node, rest) ←
      if startsImplicitly tokens then node? Handles.standard true false steps tokens
      else do
        let (d, rest) ← directives? {} tokens
        match rest with
        | .documentStart :: rest =>
          if startsImplicitly rest && !nextIn [.documentEnd] rest then
            node? (d.handles ++ Handles.standard) true false steps rest
          else some (NamedNode.empty {}, rest)
        | _ => none
    if rest.all (· == .documentEnd) then some (some node) else none

end DeployConfig.Yaml
