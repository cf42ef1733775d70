/-
  The forms of a declaration.

  The same items can be declared in several forms.

  1. **Lists and single blocks**: a list of blocks under the plural name is a list declared as it
     is, and one block under the singular name is one item.
  2. **Named children**: a plural block whose children have names of their own is the list of these
     children, whatever the names are (`plural_block_as_list`).
  3. **Singular children**: a plural block whose children all have the singular name adds their
     items, as the same declarations outside of it do.  The crux is that both go through the
     children in order and gather the same items (`children_singular`, `extendEach_eq`); they part
     only over a collection that is undeclared and gains no item, which declarations outside
     declare (`nested_singular_children`).
-/
import DeployConfig.Config.Image
import DeployConfig.Proofs.Binding.Codec
import DeployConfig.Proofs.Binding.RepeatableRun

namespace DeployConfig

open Bindable

/-! ## Lists and single blocks -/

/-- A list of blocks as a value carries just these blocks. -/
theorem Field.blocks_list (kind name : String) (blocks : List Block) :
    Field.blocks ⟨kind, name, .list (blocks.map Value.block)⟩ = .ok blocks := by
  simp only [Field.blocks, Field.items, Codec.mapM_block?]

namespace Repeatable

variable {T : Type} [Bindable T]

/-- A list of blocks under the plural name replaces the collection. -/
theorem replace_list (c : Repeatable T) (kind name singular : String) (blocks : List Block) :
    c.replace ⟨kind, name, .list (blocks.map Value.block)⟩ singular = c.replaceWithList blocks := by
  show (Field.blocks ⟨kind, name, .list (blocks.map Value.block)⟩).bind c.replaceWithList = _
  rw [Field.blocks_list]
  rfl

/-- One block under the singular name is appended. -/
theorem extend_block (c : Repeatable T) (kind name : String) (block : Block) :
    c.extend ⟨kind, name, .block block⟩ = c.append block := by
  show (bindAll T [block]).bind _ = _
  rw [bindAll, append, List.mapM_cons, List.mapM_nil]
  cases bind T block <;> rfl

/-! ## Named children -/

/-- Blocks under names, as the children of a plural block. -/
def namedChildren (children : List (String × Block)) : Block :=
  children.map fun child => (child.1, .block child.2)

/-- The first of some blocks is bound before the others. -/
theorem bindAll_cons (block : Block) (rest : List Block) :
    bindAll T (block :: rest) =
      (bind T block).bind fun item => (bindAll T rest).map fun items => item :: items := by
  rw [bindAll, List.mapM_cons]
  cases bind T block <;> rfl

/-- Children with names of their own are bound as the list of their blocks. -/
theorem children_named {singular : String} {children : List (String × Block)}
    (named : ∀ child ∈ children, child.1 ≠ singular) :
    (Repeatable.children singular (namedChildren children) : Except BindError (Children T)) =
      (bindAll T (children.map Prod.snd)).map fun items => ⟨[], items⟩ := by
  induction children with
  | nil => rfl
  | cons child rest ih =>
    obtain ⟨name, block⟩ := child
    have own : name ≠ singular := named _ List.mem_cons_self
    have later := ih fun other member => named other (List.mem_cons_of_mem _ member)
    -- The child is a block, so it is one item, and that item stands in front of the others.
    have first : (childItems singular (name, .block block) : Except BindError (List T)) =
        (bind T block).map fun item => [item] := by
      rw [childItems, if_neg own]
      rfl
    rw [namedChildren] at later
    rw [namedChildren, List.map_cons, List.map_cons, children_cons, bindAll_cons, first, later]
    cases bind T block with
    | error e => rfl
    | ok item =>
      cases bindAll T (rest.map Prod.snd) with
      | error e => rfl
      | ok items =>
        show Except.ok (if name = singular then _ else _) = _
        rw [if_neg own]
        rfl

/-- A plural block of children with names of their own replaces the collection by their list. -/
theorem replaceWithBlock_named {singular : String} {children : List (String × Block)}
    (some_child : children ≠ []) (named : ∀ child ∈ children, child.1 ≠ singular)
    (c : Repeatable T) :
    c.replaceWithBlock (namedChildren children) singular =
      c.replaceWithList (children.map Prod.snd) := by
  rw [replaceWithBlock, replaceWithList, children_named named]
  cases children with
  | nil => exact absurd rfl some_child
  | cons child rest =>
    -- The first child is an item, so the collection does not stay as it was.
    rw [List.map_cons, bindAll_cons]
    cases bind T child.2 with
    | error e => rfl
    | ok item => cases bindAll T (rest.map Prod.snd) <;> rfl

/-- **A plural block and a list are the same declaration.**  Some blocks, under any names but the
    singular one, replace a collection as the list of them does: both leave the items of all blocks
    in order, or both fail with the error of the first block that does not bind and leave the
    collection as it was. -/
theorem plural_block_as_list {singular : String} {children : List (String × Block)}
    (some_child : children ≠ []) (named : ∀ child ∈ children, child.1 ≠ singular)
    (c : Repeatable T) (kind name : String) :
    let asBlock : Step := .replace ⟨kind, name, .block (namedChildren children)⟩ singular
    let asList : Step :=
      .replace ⟨kind, name, .list (children.map fun child => .block child.2)⟩ singular
    c.after asBlock = c.after asList ∧
      ((∃ items, bindAll T (children.map Prod.snd) = .ok items ∧
          c.after asBlock = ⟨ofList items, none⟩) ∨
        (∃ e, bindAll T (children.map Prod.snd) = .error e ∧ c.after asBlock = ⟨c, some e⟩)) := by
  intro asBlock asList
  have block : asBlock.apply c = c.replaceWithList (children.map Prod.snd) :=
    replaceWithBlock_named some_child named c
  have list : asList.apply c = c.replaceWithList (children.map Prod.snd) := by
    have blocks : (children.map fun child => Value.block child.2) =
        (children.map Prod.snd).map Value.block := by
      rw [List.map_map]
      rfl
    show c.replace ⟨kind, name, .list (children.map fun child => .block child.2)⟩ singular = _
    rw [blocks, replace_list]
  have same : c.after asBlock = c.after asList := by
    rw [after, after, block, list]
  refine ⟨same, ?_⟩
  rw [after, block, replaceWithList]
  cases bound : bindAll T (children.map Prod.snd) with
  | ok items => exact .inl ⟨items, rfl, rfl⟩
  | error e => exact .inr ⟨e, rfl, rfl⟩

/-- The second of two images under one name is misspelled, and the image from before stays. -/
theorem plural_block_as_list_misspelled :
    let children : List (String × Block) :=
      [("app", [("name", .string "a")]), ("app", [("nmae", .string "b")])]
    let held : Repeatable Image := ofList [{ name := some "web" }]
    let error : BindError := .unknownFields "image" ["nmae"]
    (children ≠ [] ∧ ∀ child ∈ children, child.1 ≠ "image") ∧
      held.after (.replace ⟨"kubernetes", "images", .block (namedChildren children)⟩ "image") =
        ⟨held, some error⟩ ∧
      held.after (.replace ⟨"kubernetes", "images", .list (children.map fun child =>
        .block child.2)⟩ "image") = ⟨held, some error⟩ := by
  intro children held error
  have some_child : children ≠ [] := List.cons_ne_nil _ _
  have named : ∀ child ∈ children, child.1 ≠ "image" := by decide
  have failed : bindAll Image (children.map Prod.snd) = .error error := rfl
  obtain ⟨same, outcome⟩ := plural_block_as_list some_child named held "kubernetes" "images"
  rcases outcome with ⟨items, bound, -⟩ | ⟨e, bound, left⟩
  · rw [failed] at bound
    cases bound
  · rw [failed] at bound
    cases bound
    exact ⟨⟨some_child, named⟩, left, same ▸ left⟩

/-! ## Singular children -/

/-- The collection after a singular declaration by each value in turn. -/
def extendEach (c : Repeatable T) (kind name : String) (values : List Value) :
    Except BindError (Repeatable T) :=
  values.foldlM (fun d value => d.extend ⟨kind, name, value⟩) c

/-- The items that values carry, value by value. -/
def carriedByEach (kind name : String) (values : List Value) : Except BindError (List (List T)) :=
  values.mapM fun value => carried ⟨kind, name, value⟩

theorem carriedByEach_cons (kind name : String) (value : Value) (rest : List Value) :
    (carriedByEach kind name (value :: rest) : Except BindError (List (List T))) =
      (carried ⟨kind, name, value⟩).bind fun items =>
        (carriedByEach kind name rest).map fun found => items :: found := by
  rw [carriedByEach, List.mapM_cons]
  cases (carried ⟨kind, name, value⟩ : Except BindError (List T)) <;> rfl

/-- Where a value stands counts only for the error that it may give. -/
theorem carried_eq_ok {kind name value} {items : List T}
    (bound : carried ⟨kind, name, value⟩ = .ok items) (kind' name' : String) :
    carried ⟨kind', name', value⟩ = .ok items := by
  cases value with
  | block entries => exact bound
  | list values =>
    simp only [carried, Field.blocks, Field.items] at bound ⊢
    cases read : values.mapM Field.block? with
    | none =>
      rw [read] at bound
      cases bound
    | some blocks =>
      rw [read] at bound
      exact bound
  | string _ | integer _ | float _ | boolean _ => cases bound

/-- Values that each carry items give one list of items each, wherever they stand. -/
theorem exists_carriedByEach {kind name : String} {values : List Value}
    (bound : ∀ value ∈ values, ∃ items : List T, carried ⟨kind, name, value⟩ = .ok items) :
    ∃ found : List (List T), found.length = values.length ∧
      ∀ kind' name', carriedByEach kind' name' values = .ok found := by
  induction values with
  | nil => exact ⟨[], rfl, fun _ _ => rfl⟩
  | cons value rest ih =>
    obtain ⟨items, first⟩ := bound value List.mem_cons_self
    obtain ⟨found, lengths, anywhere⟩ := ih fun other member =>
      bound other (List.mem_cons_of_mem _ member)
    refine ⟨items :: found, congrArg Nat.succ lengths, ?_⟩
    intro kind' name'
    rw [carriedByEach_cons, carried_eq_ok first, anywhere]
    rfl

/-- Children under the singular name give the items that their values carry, in order. -/
theorem children_singular {singular : String} {block : Block}
    (singulars : ∀ child ∈ block, child.1 = singular) :
    (children singular block : Except BindError (Children T)) =
      (carriedByEach (kind T) singular (block.map Prod.snd)).map fun found =>
        ⟨found.flatten, []⟩ := by
  induction block with
  | nil => rfl
  | cons child rest ih =>
    obtain ⟨name, value⟩ := child
    have same : name = singular := singulars _ List.mem_cons_self
    have later := ih fun other member => singulars other (List.mem_cons_of_mem _ member)
    subst same
    have first : (childItems name (name, value) : Except BindError (List T)) =
        carried ⟨kind T, name, value⟩ := if_pos rfl
    rw [List.map_cons, children_cons, carriedByEach_cons, first, later]
    cases (carried ⟨kind T, name, value⟩ : Except BindError (List T)) with
    | error e => rfl
    | ok items =>
      cases (carriedByEach (kind T) name (rest.map Prod.snd) :
          Except BindError (List (List T))) with
      | error e => rfl
      | ok found =>
        show Except.ok (if name = name then _ else _) = _
        rw [if_pos rfl]
        rfl

/-- Declarations in turn add the items that their values carry. -/
theorem extendEach_eq (c : Repeatable T) (kind name : String) (values : List Value) :
    c.extendEach kind name values =
      (carriedByEach kind name values).map fun found => found.foldl appendAll c := by
  -- The collection changes with each declaration, so it is general in the induction.
  induction values generalizing c with
  | nil => rfl
  | cons value rest ih =>
    have first : c.extend ⟨kind, name, value⟩ =
        (carried ⟨kind, name, value⟩).map c.appendAll := by
      rw [show c.extend ⟨kind, name, value⟩ = _ from Step.apply_eq c (.extend ⟨kind, name, value⟩)]
      show ((carried ⟨kind, name, value⟩).map Effect.appends).map (Effect.on c) = _
      cases (carried ⟨kind, name, value⟩ : Except BindError (List T)) <;> rfl
    rw [carriedByEach_cons, extendEach, List.foldlM_cons, first]
    cases (carried ⟨kind, name, value⟩ : Except BindError (List T)) with
    | error e => rfl
    | ok items =>
      show (c.appendAll items).extendEach kind name rest = _
      rw [ih]
      cases (carriedByEach kind name rest : Except BindError (List (List T))) <;> rfl

omit [Bindable T] in
/-- Lists of items added in turn are all of them added at once. -/
theorem foldl_appendAll (c : Repeatable T) {found : List (List T)} (some_list : found ≠ []) :
    found.foldl appendAll c = c.appendAll found.flatten := by
  induction found generalizing c with
  | nil => exact absurd rfl some_list
  | cons items rest ih =>
    rw [List.foldl_cons, List.flatten_cons]
    by_cases last : rest = []
    · subst last
      rw [List.foldl_nil, List.flatten_nil, List.append_nil]
    · rw [ih (c.appendAll items) last]
      show ofList (c.toList ++ items ++ rest.flatten) = ofList (c.toList ++ (items ++ rest.flatten))
      rw [List.append_assoc]

omit [Bindable T] in
/-- Items of singular children are added, unless there are none and the collection was never
    declared. -/
theorem adopt_appended (c : Repeatable T) (items : List T) :
    (c.adopt ⟨items, []⟩ = c.appendAll items ∧
      (c.isDeclared = true ∨ (c.appendAll items).toList ≠ [])) ∨ (c = {} ∧ items = []) := by
  by_cases no_item : items = []
  · subst no_item
    obtain ⟨_ | held⟩ := c
    · exact .inr ⟨rfl, rfl⟩
    · have same : ofList held = ofList (held ++ []) := by rw [List.append_nil]
      exact .inl ⟨same, .inl rfl⟩
  · have gains : items.isEmpty = false := List.isEmpty_eq_false_iff.2 no_item
    refine .inl ⟨?_, .inr fun none_item => no_item (List.append_eq_nil_iff.1 none_item).2⟩
    rw [adopt, gains]
    rfl

/-- **Singular declarations in a plural block and outside of it.**  If all children of a plural
    block have the singular name and carry items, the block succeeds as the declarations of the same
    values in turn do, and both leave the same items.  They leave the same collection unless it was
    undeclared and the children, of which there are some, carry no item at all; then it stays
    undeclared inside the plural block, and is declared empty outside of it. -/
theorem nested_singular_children {singular : String} {block : Block}
    (singulars : ∀ child ∈ block, child.1 = singular)
    (bound : ∀ child ∈ block, ∃ items : List T,
      carried ⟨Bindable.kind T, child.1, child.2⟩ = .ok items)
    (c : Repeatable T) (kind name : String) :
    ∃ nested outside, c.replaceWithBlock block singular = .ok nested ∧
      c.extendEach kind name (block.map Prod.snd) = .ok outside ∧
      nested.toList = outside.toList ∧
      (nested = outside ↔ block = [] ∨ c.isDeclared = true ∨ outside.toList ≠ []) ∧
      (nested ≠ outside → nested = {} ∧ outside = ofList []) := by
  have each : ∀ value ∈ block.map Prod.snd, ∃ items : List T,
      carried ⟨Bindable.kind T, singular, value⟩ = .ok items := by
    intro value member
    obtain ⟨child, listed, rfl⟩ := List.mem_map.1 member
    rw [← singulars child listed]
    exact bound child listed
  obtain ⟨found, lengths, anywhere⟩ := exists_carriedByEach each
  rw [List.length_map] at lengths
  have nestedEq : c.replaceWithBlock block singular = .ok (c.adopt ⟨found.flatten, []⟩) := by
    rw [replaceWithBlock, children_singular singulars, anywhere]
    rfl
  have outsideEq : c.extendEach kind name (block.map Prod.snd) =
      .ok (found.foldl appendAll c) := by
    rw [extendEach_eq, anywhere]
    rfl
  refine ⟨_, _, nestedEq, outsideEq, ?_⟩
  by_cases none_listed : block = []
  · -- Without children nothing is declared either way.
    subst none_listed
    have nothing : found = [] := List.length_eq_zero_iff.1 lengths
    subst nothing
    exact ⟨rfl, iff_of_true rfl (.inl rfl), fun differ => absurd rfl differ⟩
  · have some_list : found ≠ [] := by
      intro nothing
      rw [nothing] at lengths
      exact none_listed (List.length_eq_zero_iff.1 lengths.symm)
    rw [foldl_appendAll c some_list]
    rcases adopt_appended c found.flatten with ⟨same, holds⟩ | ⟨rfl, no_item⟩
    · rw [same]
      exact ⟨rfl, iff_of_true rfl (.inr holds), fun differ => absurd rfl differ⟩
    · rw [no_item]
      have differ : ({} : Repeatable T) ≠ ofList [] := by
        intro same
        cases same
      refine ⟨rfl, iff_of_false differ ?_, fun _ => ⟨rfl, rfl⟩⟩
      rintro (h | h | h)
      · exact none_listed h
      · cases h
      · exact h rfl

/-- An empty list and one image, as children of the singular name. -/
theorem nested_singular_children_one_image :
    let block : Block := [("image", .list []), ("image", .block [("name", .string "a")])]
    let declared : Repeatable Image := ofList [{ name := some "a" }]
    ((∀ child ∈ block, child.1 = "image") ∧ ∀ child ∈ block, ∃ items : List Image,
      carried ⟨"image", child.1, child.2⟩ = .ok items) ∧
      replaceWithBlock {} block "image" = .ok declared ∧
      extendEach {} "kubernetes" "image" (block.map Prod.snd) = .ok declared := by
  intro block declared
  have singulars : ∀ child ∈ block, child.1 = "image" := by decide
  have bound : ∀ child ∈ block, ∃ items : List Image,
      carried ⟨"image", child.1, child.2⟩ = .ok items := by
    intro child member
    rcases List.mem_cons.1 member with rfl | member
    · exact ⟨[], rfl⟩
    · cases List.mem_singleton.1 member
      exact ⟨[{ name := some "a" }], rfl⟩
  obtain ⟨nested, outside, inside, after, -, same, -⟩ :=
    nested_singular_children singulars bound {} "kubernetes" "image"
  have left : extendEach {} "kubernetes" "image" (block.map Prod.snd) = .ok declared := rfl
  rw [left] at after
  cases after
  have agree : nested = declared := same.2 (.inr (.inr (List.cons_ne_nil _ _)))
  exact ⟨⟨singulars, bound⟩, agree ▸ inside, left⟩

/-- An empty list under the singular name declares the images, but not inside a plural block. -/
theorem empty_list_in_plural_block :
    let block : Block := [("image", .list [])]
    (∀ child ∈ block, child.1 = "image" ∧
      carried ⟨"image", child.1, child.2⟩ = .ok ([] : List Image)) ∧
      replaceWithBlock {} block "image" = .ok ({} : Repeatable Image) ∧
      extendEach {} "kubernetes" "image" (block.map Prod.snd) = .ok (ofList ([] : List Image)) ∧
      ({} : Repeatable Image) ≠ ofList [] := by
  intro block
  refine ⟨fun child member => ?_, rfl, rfl, by decide⟩
  cases List.mem_singleton.1 member
  exact ⟨rfl, rfl⟩

end Repeatable

end DeployConfig
