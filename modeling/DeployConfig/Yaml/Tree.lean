/-
  Trees of YAML values.

  A tree is what a document says once anchors are resolved and scalars are read.  As a block it
  loses its tags, and the entries and items that are null; the keys of its mappings become texts.
-/
import DeployConfig.Documents.Error
import DeployConfig.Value

namespace DeployConfig.Yaml

/-- A value of a YAML document. -/
inductive Tree where
  | null
  | boolean (truth : Bool)
  /-- An integer from `-2 ^ 63` to `2 ^ 64 - 1`. -/
  | integer (number : Int)
  | float (number : Binary64)
  | string (text : String)
  | sequence (items : List Tree)
  | mapping (entries : List (Tree × Tree))
  | tagged (tag : List Char) (value : Tree)
  deriving Inhabited

/-! ## Equality of keys -/

mutual

/-- Whether two trees count as the same key.  The order of a mapping's entries does not matter. -/
def Tree.same : Tree → Tree → Bool
  | .null, .null => true
  | .boolean a, .boolean b => a == b
  | .integer a, .integer b => a == b
  | .float a, .float b => a.sameKey b
  | .string a, .string b => a == b
  | .sequence as, .sequence bs => sameItems as bs
  | .mapping as, .mapping bs => as.length == bs.length && entriesIn as bs
  | .tagged s a, .tagged t b => s == t && a.same b
  | _, _ => false

/-- Whether two lists of trees are the same one by one. -/
def sameItems : List Tree → List Tree → Bool
  | [], [] => true
  | a :: as, b :: bs => a.same b && sameItems as bs
  | _, _ => false

/-- Whether every entry of the first list occurs in the second. -/
def entriesIn : List (Tree × Tree) → List (Tree × Tree) → Bool
  | [], _ => true
  | (k, v) :: rest, bs => (bs.any fun b => k.same b.1 && v.same b.2) && entriesIn rest bs

end

/-- Whether no key occurs twice. -/
def distinctKeys : List (Tree × Tree) → Bool
  | [] => true
  | entry :: rest => !(rest.any fun other => entry.1.same other.1) && distinctKeys rest

/-! ## The block of a tree -/

/-- The text of a floating-point number. -/
def floatText : Binary64 → String
  | .nan => ".nan"
  | .infinite negative => if negative then "-.inf" else ".inf"
  | .finite negative mantissa exponent => Binary64.scientific negative mantissa exponent

/-- The text of a key, unless it is no scalar or null. -/
def Tree.keyText? : Tree → Option String
  | .boolean truth => some (if truth then "true" else "false")
  | .integer number => some (Text.decimal number)
  | .float number => some (floatText number)
  | .string text => some text
  | _ => none

/-- The value of an integer: one above the 64-bit range becomes a floating-point number. -/
def integerValue (n : Int) : Value :=
  if n ≤ 9223372036854775807 then .integer (Int64.ofInt n) else .float (.ofNat n.toNat)

mutual

/-- The value that a tree stands for, none if it is null. -/
def Tree.toValue : Tree → Except DocumentProblem (Option Value)
  | .null => .ok none
  | .boolean truth => .ok (some (.boolean truth))
  | .integer number => .ok (some (integerValue number))
  | .float number => .ok (some (.float number))
  | .string text => .ok (some (.string text))
  | .sequence items => (valuesOf items).map fun values => some (.list values)
  | .mapping entries => (blockOf entries).map fun block => some (.block block)
  | .tagged _ value => value.toValue

/-- The values of the items that are not null. -/
def valuesOf : List Tree → Except DocumentProblem (List Value)
  | [] => .ok []
  | item :: rest => do
    let value ← item.toValue
    let values ← valuesOf rest
    return value.toList ++ values

/-- The assignments of the entries that are not null; every key has to be a scalar, whatever its
    value is. -/
def blockOf : List (Tree × Tree) → Except DocumentProblem Block
  | [] => .ok []
  | (key, item) :: rest =>
    match key.keyText? with
    | none => .error .keyNotScalar
    | some name => do
      let value ← item.toValue
      let block ← blockOf rest
      return (value.toList.map fun v => (name, v)) ++ block

end

/-- The block of a document's tree.  Null is the empty block. -/
def Tree.toBlock (tree : Tree) : Except DocumentProblem Block :=
  match tree.toValue with
  | .ok none => .ok []
  | .ok (some (.block entries)) => .ok entries
  | .ok (some value) => .error (.rootNotMapping value.typeName)
  | .error problem => .error problem

end DeployConfig.Yaml
