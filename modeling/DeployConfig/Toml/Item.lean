/-
  Trees of TOML documents.

  A tree keeps how each table was made, because that decides whether a later line may add to it:
  a table of its own, written by a header or between braces, may not be opened again; a table that
  only a longer header implied may get its header later; a table made by a dotted key takes further
  dotted keys.  As a block, a tree forgets these differences.
-/
import DeployConfig.Value

namespace DeployConfig.Toml

/-- How a table came to be. -/
inductive Origin where
  /-- By a header, or written between braces. -/
  | own
  /-- By the header of a table inside it. -/
  | implied
  /-- By a dotted key. -/
  | dotted
  deriving DecidableEq, Repr

/-- A value of a TOML document.  Dates and times are texts in their normal form. -/
inductive Item where
  | string (text : String)
  | integer (number : Int64)
  | float (number : Binary64)
  | boolean (truth : Bool)
  | dateTime (text : String)
  | array (items : List Item)
  | inlineTable (origin : Origin) (entries : List (String × Item))
  | table (origin : Origin) (entries : List (String × Item))
  | tableArray (tables : List (List (String × Item)))
  deriving Inhabited

/-- The entries of a table, in the order of their keys' first assignment. -/
abbrev Entries := List (String × Item)

/-! ## The block of a tree -/

mutual

/-- The value that an item stands for. -/
def Item.toValue : Item → Value
  | .string text => .string text
  | .integer number => .integer number
  | .float number => .float number
  | .boolean truth => .boolean truth
  | .dateTime text => .string text
  | .array items => .list (valuesOf items)
  | .inlineTable _ entries => .block (blockOf entries)
  | .table _ entries => .block (blockOf entries)
  | .tableArray tables => .list (blocksOf tables)

/-- The values of a list of items. -/
def valuesOf : List Item → List Value
  | [] => []
  | item :: rest => item.toValue :: valuesOf rest

/-- The block of the entries of a table. -/
def blockOf : List (String × Item) → Block
  | [] => []
  | (key, item) :: rest => (key, item.toValue) :: blockOf rest

/-- The blocks of a list of tables. -/
def blocksOf : List (List (String × Item)) → List Value
  | [] => []
  | entries :: rest => .block (blockOf entries) :: blocksOf rest

end

/-! ## Adding to a table -/

namespace Entries

/-- Entries with the value of a key that occurs replaced. -/
def replace (key : String) (item : Item) (entries : Entries) : Entries :=
  entries.map fun entry => if entry.1 == key then (key, item) else entry

/-- Entries with a new key at the end; a key that occurs may not be assigned again. -/
def add? (key : String) (item : Item) (entries : Entries) : Option Entries :=
  if (entries.lookup key).isSome then none else some (entries ++ [(key, item)])

/-- A list with its last element changed; no list if it has none. -/
def changeLast? {α : Type} (change : α → Option α) : List α → Option (List α)
  | [] => none
  | [last] => (change last).map fun changed => [changed]
  | first :: rest => (changeLast? change rest).map (first :: ·)

/-- Entries changed at the table that a path of keys leads to.  Tables that are missing on the way
    are made.  The path leads through tables and through the last table of an array of tables; the
    path of a dotted key does not lead through a table of its own.  The change learns how its table
    came to be. -/
def changeAt? (dotted : Bool) (change : Origin → Entries → Option Entries) :
    Origin → List String → Entries → Option Entries
  | origin, [], entries => change origin entries
  | _, key :: path, entries =>
    match entries.lookup key with
    | none =>
      let made : Origin := if dotted then .dotted else .implied
      (changeAt? dotted change made path []).map fun inner => entries ++ [(key, .table made inner)]
    | some (.table origin inner) =>
      if dotted && origin == .own then none
      else (changeAt? dotted change origin path inner).map fun changed =>
        replace key (.table origin changed) entries
    | some (.tableArray tables) =>
      (changeLast? (changeAt? dotted change .own path) tables).map fun changed =>
        replace key (.tableArray changed) entries
    | some _ => none

/-- Entries with a value assigned under a dotted key.  Only dotted keys add to a table that a
    dotted key made. -/
def assign? (path : List String) (key : String) (item : Item) (entries : Entries) :
    Option Entries :=
  changeAt? true
    (fun origin inner =>
      if path.isEmpty == (origin == .dotted) then none else inner.add? key item)
    .own path entries

/-- Entries with a value assigned under a dotted key inside the table that a header names. -/
def assignUnder? (header path : List String) (key : String) (item : Item) (entries : Entries) :
    Option Entries :=
  changeAt? false (fun _ inner => inner.assign? path key item) .own header entries

/-- Entries with a table opened by its header.  A table that was only implied is moved to the end
    of the table around it; any other value under the key is an error. -/
def openTable? (path : List String) (key : String) (entries : Entries) : Option Entries :=
  changeAt? false
    (fun _ inner =>
      match inner.lookup key with
      | none => some (inner ++ [(key, .table .own [])])
      | some (.table .implied content) =>
        some (inner.filter (fun entry => entry.1 != key) ++ [(key, .table .own content)])
      | some _ => none)
    .own path entries

/-- Entries with a further table in an array of tables, opened by its header. -/
def openElement? (path : List String) (key : String) (entries : Entries) : Option Entries :=
  changeAt? false
    (fun _ inner =>
      match inner.lookup key with
      | none => some (inner ++ [(key, .tableArray [[]])])
      | some (.tableArray tables) => some (replace key (.tableArray (tables ++ [[]])) inner)
      | some _ => none)
    .own path entries

/-- Entries of an inline table with a value assigned under a dotted key, which leads only through
    tables that dotted keys made. -/
def assignInline? (key : String) (item : Item) : List String → Entries → Option Entries
  | [], entries => entries.add? key item
  | step :: path, entries =>
    match entries.lookup step with
    | none => (assignInline? key item path []).map fun inner =>
        entries ++ [(step, .inlineTable .dotted inner)]
    | some (.inlineTable .dotted inner) =>
      (assignInline? key item path inner).map fun changed =>
        replace step (.inlineTable .dotted changed) entries
    | some _ => none

end Entries

end DeployConfig.Toml
