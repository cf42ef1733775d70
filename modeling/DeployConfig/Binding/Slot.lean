/-
  Field tables.

  A kind of block is read by its slots: the names it knows, and for each name how a field is
  assigned to the target.  Binding a block walks its assignments in order.  The first one that
  fails ends the walk and leaves the target as the assignments before it made it; unknown names are
  collected, each once, and reported after the walk.
-/
import DeployConfig.Binding.Field
import DeployConfig.Binding.Writable

namespace DeployConfig

/-- What an assignment or a walk leaves: the target as it stands then, and the error that ended
    it, if one did. -/
structure Outcome (T : Type) where
  target : T
  error : Option BindError := none

namespace Outcome

/-- The outcome of an assignment that either gives a new target or fails and changes nothing. -/
def ofExcept {T : Type} (unchanged : T) : Except BindError T → Outcome T
  | .ok changed => ⟨changed, none⟩
  | .error e => ⟨unchanged, some e⟩

/-- The target of an outcome without error. -/
def toExcept {T : Type} (outcome : Outcome T) : Except BindError T :=
  match outcome.error with
  | none => .ok outcome.target
  | some e => .error e

/-- An outcome seen at another target. -/
def map {S T : Type} (f : S → T) (outcome : Outcome S) : Outcome T :=
  ⟨f outcome.target, outcome.error⟩

end Outcome

/-- A part of a target that can be read and replaced. -/
structure Part (T α : Type) where
  get : T → α
  set : T → α → T
  get_set : ∀ t a, get (set t a) = a := by intros; rfl
  set_get : ∀ t, set t (get t) = t := by intros; rfl
  set_set : ∀ t a b, set (set t a) b = set t b := by intros; rfl

/-- A name that a kind of block knows. -/
structure Slot (T : Type) where
  name : String
  /-- Assigns a field of this name to a target. -/
  assign : T → Field → Outcome T

/-- A kind of block: its name in messages, its field table and its value with nothing assigned. -/
class Bindable (T : Type) where
  kind : String
  slots : List (Slot T)
  empty : T

namespace Bindable

variable {T : Type} [Bindable T]

/-- One assignment offered to a target; no outcome if the name is unknown. -/
def assign? (target : T) (name : String) (value : Value) : Option (Outcome T) :=
  ((slots : List (Slot T)).find? fun slot => slot.name == name).map fun slot =>
    slot.assign target ⟨kind T, name, value⟩

/-- A name added to a list of names unless it is there. -/
def addName (names : List String) (name : String) : List String :=
  if names.contains name then names else names ++ [name]

/-- The rest of a walk over a block, after the unknown names already met. -/
def bindRest (target : T) (unknown : List String) : Block → Outcome T
  | [] => if unknown.isEmpty then ⟨target, none⟩
    else ⟨target, some (.unknownFields (kind T) unknown)⟩
  | (name, value) :: rest =>
    match assign? target name value with
    | none => bindRest target (addName unknown name) rest
    | some ⟨changed, none⟩ => bindRest changed unknown rest
    | some ⟨changed, some e⟩ => ⟨changed, some e⟩

/-- Every assignment of a block offered in order to a target. -/
def bindInto (target : T) (block : Block) : Outcome T := bindRest target [] block

variable (T) in
/-- A block bound to a target with nothing assigned. -/
def bind (block : Block) : Except BindError T := (bindInto (empty : T) block).toExcept

variable (T) in
/-- Each block bound on its own. -/
def bindAll (blocks : List Block) : Except BindError (List T) := blocks.mapM (bind T)

end Bindable

/-! ## Ways to read and write one value -/

/-- How values of a type are read from a field, and as what they are written. -/
structure Codec (α : Type) where
  read : Field → Except BindError α
  write : α → Value

namespace Codec

/-- Texts. -/
def string : Codec String := ⟨Field.string, Value.string⟩

/-- Truth values. -/
def boolean : Codec Bool := ⟨Field.boolean, Value.boolean⟩

/-- Integers of a fixed width. -/
def integer (α : Type) [FixedWidth α] : Codec α :=
  ⟨Field.integer α, Writable.ofInteger⟩

/-- Paths. -/
def path : Codec Path := ⟨Field.path, Writable.ofPath⟩

/-- Members of an enumeration. -/
def choice (α : Type) [Enumeration α] : Codec α :=
  ⟨Field.choice α, fun a => .string (Enumeration.name a)⟩

/-- Lists of texts. -/
def strings : Codec (List String) := ⟨Field.strings, Writable.ofList .string⟩

/-- Lists of ports. -/
def ports : Codec (List String) := ⟨Field.ports, Writable.ofList .string⟩

/-- Commands. -/
def command : Codec (List String) := ⟨Field.command, Writable.ofList .string⟩

/-- Maps from names to texts. -/
def stringMap : Codec (OrderedMap String) := ⟨Field.stringMap, Writable.ofMap .string⟩

/-- Blocks of a kind. -/
def nested (T : Type) [Bindable T] [Writable T] : Codec T :=
  ⟨fun f => f.block.bind (Bindable.bind T), Writable.toValue⟩

/-- Lists of blocks of a kind. -/
def nestedList (T : Type) [Bindable T] [Writable T] : Codec (List T) :=
  ⟨fun f => f.blockItems (Bindable.bind T), Writable.ofList Writable.toValue⟩

end Codec

/-! ## Slots -/

namespace Slot

variable {T α : Type}

/-- A slot that replaces a part of the target by what is read. -/
def replacing (name : String) (codec : Codec α) (set : T → α → T) : Slot T where
  name := name
  assign t f := .ofExcept t ((codec.read f).map (set t))

/-- A slot for a part that may be unset. -/
def optional (name : String) (codec : Codec α) (part : Part T (Option α)) : Slot T :=
  replacing name codec fun t a => part.set t (some a)

/-- A slot for a part that always has a value. -/
def whole (name : String) (codec : Codec α) (part : Part T α) : Slot T :=
  replacing name codec part.set

/-- A slot that appends one item to a list which another slot replaces. -/
def appending (name : String) (codec : Codec α) (part : Part T (List α)) : Slot T :=
  replacing name codec fun t a => part.set t (part.get t ++ [a])

/-- A slot of a part, as a slot of the whole. -/
def lift {S : Type} (part : Part T S) (slot : Slot S) : Slot T where
  name := slot.name
  assign t f := (slot.assign (part.get t) f).map (part.set t)

end Slot

end DeployConfig
