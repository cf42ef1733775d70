/-
  Collections that may be declared in several ways.

  A plural declaration, a block of named children or a list of blocks, replaces the collection.  A
  singular declaration appends to it.  A plural block may hold children of the singular name; if it
  holds no others, they are appended.  A declaration that fails leaves the collection as it was.
-/
import DeployConfig.Binding.Slot

namespace DeployConfig

/-- An ordered collection of items, possibly never declared. -/
structure Repeatable (T : Type) where
  items : Option (List T) := none
  deriving DecidableEq, Repr

namespace Repeatable

variable {T : Type}

/-- Whether the collection was ever declared. -/
def isDeclared (c : Repeatable T) : Bool := c.items.isSome

/-- The items, none if the collection was never declared. -/
def toList (c : Repeatable T) : List T := c.items.getD []

/-- The number of items. -/
def size (c : Repeatable T) : Nat := c.toList.length

/-- Whether the collection has no items. -/
def isEmpty (c : Repeatable T) : Bool := c.toList.isEmpty

/-- The collection with items added at its end; this declares it. -/
def appendAll (c : Repeatable T) (items : List T) : Repeatable T := ⟨some (c.toList ++ items)⟩

/-- The collection replaced by a list of items. -/
def ofList (items : List T) : Repeatable T := ⟨some items⟩

variable [Bindable T]

/-- Singular declaration of one block. -/
def append (c : Repeatable T) (block : Block) : Except BindError (Repeatable T) :=
  (Bindable.bind T block).map fun item => c.appendAll [item]

/-- Plural declaration by a list of blocks. -/
def replaceWithList (_ : Repeatable T) (blocks : List Block) : Except BindError (Repeatable T) :=
  (Bindable.bindAll T blocks).map ofList

/-- What the children of a plural block declare: the items under the singular name, and the items
    under other names, each in the order written. -/
structure Children (T : Type) where
  appended : List T := []
  named : List T := []

/-- The items of the children of a plural block. -/
def children (singular : String) : Block → Except BindError (Children T)
  | [] => .ok {}
  | (name, value) :: rest =>
    let field : Field := ⟨Bindable.kind T, name, value⟩
    if name == singular then do
      let items ← Bindable.bindAll T (← field.blocks)
      let others ← children singular rest
      return { others with appended := items ++ others.appended }
    else do
      let item ← Bindable.bind T (← field.block)
      let others ← children singular rest
      return { others with named := item :: others.named }

/-- The collection after a plural block with the given children: the named ones replace it; if
    there are none, the ones under the singular name are appended. -/
def adopt (c : Repeatable T) (found : Children T) : Repeatable T :=
  if !found.named.isEmpty then ofList found.named
  else if !found.appended.isEmpty then c.appendAll found.appended
  else c

/-- Plural declaration by a block of children. -/
def replaceWithBlock (c : Repeatable T) (block : Block) (singular : String) :
    Except BindError (Repeatable T) :=
  (children singular block).map c.adopt

/-- Plural declaration by a field, which carries a block of children or a list of blocks. -/
def replace (c : Repeatable T) (field : Field) (singular : String) :
    Except BindError (Repeatable T) :=
  match field.value with
  | .block entries => c.replaceWithBlock entries singular
  | .list _ => field.blocks.bind c.replaceWithList
  | _ => field.mismatch .blockOrListOfBlocks

/-- Singular declaration by a field, which carries one block or a list of blocks. -/
def extend (c : Repeatable T) (field : Field) : Except BindError (Repeatable T) :=
  do return c.appendAll (← Bindable.bindAll T (← field.blocks))

end Repeatable

end DeployConfig
