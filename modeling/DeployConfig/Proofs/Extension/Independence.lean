/-
  Assignments to different fields do not interfere.

  A block that is accepted is a walk, and what a walk leaves in one field is decided by the entries
  about that field: the last one for a plain field or a block, all of them in their order for a
  collection, whose two names are one field (`Declarations.fieldOf`).  A reordering of the block
  that keeps the entries of each field in their order is walked over as well, because an entry that
  one target takes is taken by all, and it leaves the same in every field.

  1. **Collections**: a walk runs each collection over the entries about it.
  2. **Blocks inside the block**: the last one is what the field holds.
  3. **Reorderings** change neither the last entry of a name nor what is declared for a collection.
-/
import DeployConfig.Proofs.Extension.Application

namespace DeployConfig

open Bindable

namespace Declarations

/-- The field that an entry of a name is about; a collection goes by its plural name. -/
def fieldOf (name : String) : String :=
  if name = imageName then "images" else if name = mappingName then "mappings" else name

/-! ## Collections -/

namespace Collection

/-- What an entry of a block declares for the collection, if it is about the collection. -/
def step? (k : Collection) (entry : String × Value) : Option Repeatable.Step :=
  if entry.1 = k.plural then some (.replace ⟨blockName, entry.1, entry.2⟩ k.singular)
  else if entry.1 = k.singular then some (.extend ⟨blockName, entry.1, entry.2⟩)
  else none

/-- What the entries of a block declare for the collection, in their order. -/
def steps (k : Collection) (block : Block) : List Repeatable.Step := block.filterMap k.step?

/-- An entry that declares something for the collection is about its field. -/
theorem fieldOf_of_step? {k : Collection} {entry : String × Value} {step : Repeatable.Step}
    (declares : k.step? entry = some step) : fieldOf entry.1 = k.plural := by
  by_cases plural : entry.1 = k.plural
  · rw [plural]
    cases k <;> decide
  by_cases singular : entry.1 = k.singular
  · rw [singular]
    cases k <;> decide
  rw [step?, if_neg plural, if_neg singular] at declares
  cases declares

/-- Only the entries about the field of the collection count. -/
theorem steps_filter (k : Collection) (block : Block) :
    k.steps (block.filter fun entry => fieldOf entry.1 == k.plural) = k.steps block := by
  rw [steps, List.filterMap_filter, steps]
  congr 1
  funext entry
  cases declares : k.step? entry with
  | none => exact ite_self none
  | some step => rw [if_pos (beq_iff_eq.2 (fieldOf_of_step? declares))]

end Collection

/-- **A walk runs a collection over the entries about it**, and over no others. -/
theorem get_collection_of_walk {d e : Declarations} {block : Block} (walk : Walk d block e)
    (k : Collection) : k.part.get e = (k.part.get d).run (k.steps block) := by
  induction walk with
  | done => rfl
  | @step target changed final name value block taken _ ih =>
    rw [ih]
    -- The first entry is a step of the run, or it is about another field.
    have first (step : Repeatable.Step) (declares : k.step? (name, value) = some step)
        (applied : step.apply (k.part.get target) = .ok (k.part.get changed)) :
        (k.part.get changed).run (k.steps block) =
          (k.part.get target).run (k.steps ((name, value) :: block)) := by
      rw [Collection.steps, Collection.steps, List.filterMap_cons_some declares]
      show _ = Repeatable.run ((k.part.get target).after step).target _
      rw [Repeatable.after, applied, Outcome.ofExcept]
    rcases (assign?_eq_iff.1 taken).get_collection k with
      ⟨rfl, replaced⟩ | ⟨rfl, extended⟩ | ⟨notPlural, notSingular, same⟩
    · exact first _ (if_pos rfl) replaced
    · refine first (.extend ⟨blockName, k.singular, value⟩) ?_ extended
      rw [Collection.step?, if_neg (plural_ne_singular k k).symm, if_pos rfl]
    · have none_declared : k.step? (name, value) = none := by
        rw [Collection.step?, if_neg notPlural, if_neg notSingular]
      rw [same, Collection.steps, Collection.steps, List.filterMap_cons_none none_declared]

/-! ## Blocks inside the block -/

/-- A walk leaves, in a field that is one block, what the last block assigned to it binds to. -/
theorem exists_bound_of_walk {d e : Declarations} {block : Block} (walk : Walk d block e)
    {k : Nested} {value : Value} (last : block.get? k.name = some value) :
    ∃ entries a, value = .block entries ∧ bind k.Target entries = .ok a ∧
      k.part.get e = some a := by
  have known : k.slot ∈ (slots : List (Slot Declarations)) := List.mem_append_left _ k.slot_mem
  obtain ⟨changed, taken⟩ := walk.taken (Block.mem_of_get? last) d
  have assigned : k.slot.assign d ⟨blockName, k.name, value⟩ = ⟨changed, none⟩ :=
    (assign?_eq_some_iff_of_mem distinct_slots known).1 taken
  obtain ⟨a, read, -⟩ := Outcome.ofExcept_map_eq_iff.1 assigned
  obtain ⟨entries, same, bound⟩ := Codec.exists_block_of_read read
  refine ⟨entries, a, same, bound, ?_⟩
  rw [get_nested_of_walk walk k, last, Option.map_some, Option.getD_some, read]
  rfl

/-! ## Reorderings -/

/-- Two blocks with the same entries, of which those about one field stand in the same order. -/
structure Reordering (block other : Block) : Prop where
  perm : other.Perm block
  keeps : ∀ field, (other.filter fun entry => fieldOf entry.1 == field) =
    block.filter fun entry => fieldOf entry.1 == field

/-- Leaving out entries of other names does not change the last value of a name. -/
theorem get?_filter (keep : String → Bool) {name : String} (kept : keep name = true)
    (block : Block) :
    Block.get? (block.filter fun entry => keep entry.1) name = block.get? name := by
  induction block with
  | nil => rfl
  | cons entry rest ih =>
    obtain ⟨other, value⟩ := entry
    rw [List.filter_cons, Block.get?_cons]
    split
    · rw [Block.get?_cons, ih]
    · rename_i left_out
      have different : other ≠ name := by
        rintro rfl
        exact left_out kept
      rw [ih, if_neg different, Option.or_none]

namespace Reordering

variable {block other : Block}

theorem get?_eq (reordering : Reordering block other) (name : String) :
    other.get? name = block.get? name := by
  have kept : (fieldOf name == fieldOf name) = true := beq_self_eq_true _
  rw [← get?_filter (fieldOf · == fieldOf name) kept other, reordering.keeps,
    get?_filter (fieldOf · == fieldOf name) kept block]

theorem steps_eq (reordering : Reordering block other) (k : Collection) :
    k.steps other = k.steps block := by
  rw [← k.steps_filter other, reordering.keeps, k.steps_filter block]

end Reordering

/-- A reordering leads to the same declarations. -/
theorem walk_of_reordering {d e : Declarations} {block other : Block} (walk : Walk d block e)
    (reordering : Reordering block other) : Walk d other e := by
  obtain ⟨final, walk'⟩ : ∃ final, Walk d other final :=
    Walk.exists_of_taken (fun _ member => walk.taken (reordering.perm.mem_iff.1 member)) d
  have same : final = e := ext_fields
    (fun i => by rw [value?_of_walk walk' i, value?_of_walk walk i, reordering.get?_eq])
    (fun k => by rw [get_nested_of_walk walk' k, get_nested_of_walk walk k, reordering.get?_eq])
    (fun k => by rw [get_collection_of_walk walk' k, get_collection_of_walk walk k,
      reordering.steps_eq])
  exact same ▸ walk'

end Declarations

namespace Extension

open Declarations

/-- **Assignments to different fields do not interfere.**  After a block that is accepted,

    * the project is as it was;
    * a plain value is the one last assigned to its name, as it was assigned, or else as it was;
    * a field that is one block holds what the last block assigned to it binds to, or else what it
      held;
    * a collection is as a run over just the entries about it leaves it;
    * and every reordering that keeps the entries about each field in their order is accepted as
      well, with the same outcome. -/
theorem assignments_independent (e e' : Extension) (block : Block)
    (applied : e.apply block = ⟨e', none⟩) :
    e'.project = e.project ∧
    (∀ i : Plain, e'.declarations.value? i = (block.get? i.name).or (e.declarations.value? i)) ∧
    (∀ k : Nested,
      (block.get? k.name = none → k.part.get e'.declarations = k.part.get e.declarations) ∧
      (∀ value, block.get? k.name = some value → ∃ entries a, value = .block entries ∧
        bind k.Target entries = .ok a ∧ k.part.get e'.declarations = some a)) ∧
    (∀ k : Collection,
      k.part.get e'.declarations = (k.part.get e.declarations).run (k.steps block)) ∧
    (∀ other, Reordering block other → e.apply other = ⟨e', none⟩) := by
  obtain ⟨d, walk, rfl⟩ := apply_eq_ok_iff.1 applied
  refine ⟨rfl, value?_of_walk walk,
    fun k => ⟨fun unassigned => ?_, fun _ => exists_bound_of_walk walk⟩,
    get_collection_of_walk walk, fun other reordering => ?_⟩
  · show k.part.get d = _
    rw [get_nested_of_walk walk k, unassigned, Option.map_none, Option.getD_none]
  · exact apply_eq_ok_iff.2 ⟨d, walk_of_reordering walk reordering, rfl⟩

/-- Images and namespaces may be told apart: what counts are the last namespace, and the list of
    images that replaces the one image before it. -/
theorem assignments_independent_images_namespace :
    let new : Extension := ⟨⟨.conventional ⟨"/p"⟩, .empty⟩, {}⟩
    let first : String × Value := ("image", .block [("name", .string "a")])
    let second : String × Value := ("images", .list [.block [("name", .string "b")]])
    let block : Block := [first, ("namespace", .string "x"), second, ("namespace", .string "y")]
    let other : Block := [("namespace", .string "x"), first, ("namespace", .string "y"), second]
    Reordering block other ∧ ∃ e', new.apply block = ⟨e', none⟩ ∧ new.apply other = ⟨e', none⟩ ∧
      e'.declarations.value? (.inl (.text .nameSpace)) = some (.string "y") ∧
      e'.declarations.images.toList.map (·.name) = [some "b"] := by
  intro new first second block other
  have reordering : Reordering block other := by
    refine ⟨.trans (.swap _ _ _) (.cons _ (.cons _ (.swap _ _ _))), fun field => ?_⟩
    by_cases images : field = "images"
    · rw [images]
      rfl
    · have elsewhere (entry : String × Value) (about : fieldOf entry.1 = "images") :
          ¬(fieldOf entry.1 == field) = true := fun same => images (eq_of_beq same ▸ about)
      simp only [block, other, List.filter_cons, if_neg (elsewhere first rfl),
        if_neg (elsewhere second rfl)]
  have applied : new.apply block = ⟨(new.apply block).target, none⟩ := rfl
  obtain ⟨-, plain, -, collection, reordered⟩ := assignments_independent new _ block applied
  refine ⟨reordering, _, applied, reordered other reordering, plain _, ?_⟩
  exact congrArg (fun images => images.toList.map Image.name) (collection .images)

end Extension

end DeployConfig
